import Mathlib
import ItemRecommender.Run
import ItemRecommender.Proofs.Batch.Collect
import ItemRecommender.Proofs.Run.StateFile

/-! # What a phase's work writes

    The work of a phase reads what it needs and produces one file, which it writes at the
    output path of the phase (`work_cases`): whole when the work succeeds (`work_writes`), and
    when the write is refused part way, with its staging file left (`work_leftover`). It
    leaves the progress and the events as they are. What it writes never reads as progress
    (`ReadsNoProgress`): the first four phases write datasets, which are no text, and the last
    writes the recommendation file, whose lines all end in a closing bracket. That holds for the
    lines written from objects too, which are built in the object machine; there a property of
    every result an action can give (`Object.Yields`) is carried through the steps of the
    action, as a Hoare triple with a trivial precondition. -/

namespace ItemRecommender

/-- A text of lines that each end in a closing bracket. -/
def LinesText (text : String) : Prop :=
  ∃ ls : List String, (∀ l ∈ ls, l.toList.getLast? = some ']') ∧
    text = String.join (ls.map (· ++ "\n"))

/-- Lines that end in brackets read as no marker. -/
theorem LinesText.ofText {text : String} (h : LinesText text) :
    Progress.ofText text = Progress.fresh := by
  obtain ⟨ls, hls, rfl⟩ := h
  exact Progress.ofText_lines ls hls

theorem getLast?_append_bracket (s : String) : (s ++ "]").toList.getLast? = some ']' := by
  simp

/-- The text of recommendations is lines that end in brackets. -/
theorem linesText_recommendationText (recs : List (Int × List (Recommendation Float))) :
    LinesText (recommendationText recs) := by
  refine ⟨recs.map fun r => formatLine r.1 r.2, ?_, by simp [recommendationText, Function.comp_def]⟩
  intro l hl
  obtain ⟨r, -, rfl⟩ := List.mem_map.1 hl
  exact getLast?_append_bracket _

namespace Object

variable {α β : Type}

/-- Every result the action succeeds with, from any heap, satisfies `P`. -/
def Yields (m : Act α) (P : α → Prop) : Prop :=
  ∀ h a h', m.run h = .ok (a, h') → P a

theorem yields_pure {P : α → Prop} {a : α} (ha : P a) : Yields (pure a) P := by
  intro h b h' hrun
  have hpure : (pure a : Act α).run h = .ok (a, h) := rfl
  rw [hpure, Except.ok.injEq, Prod.mk.injEq] at hrun
  exact hrun.1 ▸ ha

/-- What a bound action yields follows from what its two halves yield. -/
theorem yields_bind {m : Act α} {f : α → Act β} {Q : α → Prop} {P : β → Prop} (hm : Yields m Q)
    (hf : ∀ a, Q a → Yields (f a) P) : Yields (m >>= f) P := by
  intro h b h' hrun
  rw [StateT.run_bind] at hrun
  simp only [bind_eq_ok] at hrun
  obtain ⟨⟨a, h₁⟩, ha, hb⟩ := hrun
  exact hf a (hm h a h₁ ha) h₁ b h' hb

theorem yields_true (m : Act α) : Yields m fun _ => True := fun _ _ _ _ => trivial

/-- An action run over a list yields what each run yields. -/
theorem yields_mapM {f : α → Act β} {P : β → Prop} (hf : ∀ a, Yields (f a) P) :
    ∀ xs : List α, Yields (xs.mapM f) fun bs => ∀ b ∈ bs, P b := by
  intro xs
  induction xs with
  | nil => exact yields_pure (by simp)
  | cons x xs ih =>
    rw [List.mapM_cons]
    exact yields_bind (hf x) fun b hb => yields_bind ih fun bs hbs =>
      yields_pure (by simpa [hb] using hbs)

/-- Every line written from objects ends in a closing bracket. -/
theorem yields_recommendationLines (recs : List (Value × Value)) :
    Yields (recommendationLines recs) LinesText := by
  unfold recommendationLines
  refine yields_bind (yields_mapM ?_ recs) fun lines hlines => yields_pure ⟨lines, hlines, rfl⟩
  rintro ⟨user, line⟩
  exact yields_bind (yields_true _) fun _ _ => yields_bind (yields_true _) fun _ _ =>
    yields_bind (yields_true _) fun _ _ => yields_pure (getLast?_append_bracket _)

end Object

/-- Content that never reads as progress. -/
def ReadsNoProgress {α : Type} (content : Content α) : Prop :=
  ∀ text, Workspace.decodeText content = .ok text → Progress.ofText text = Progress.fresh

theorem readsNoProgress_dataset {α : Type} (d : Dataset α) : ReadsNoProgress (.dataset d) :=
  fun text h => by simp [Workspace.decodeText, throw, throwThe, MonadExceptOf.throw] at h

theorem LinesText.readsNoProgress {α : Type} {text : String} (h : LinesText text) :
    ReadsNoProgress (.bytes text.toUTF8.toList : Content α) := fun text' h' => by
  rw [Workspace.decodeText_toUTF8, Except.ok.injEq] at h'
  rw [← h']
  exact h.ofText

/-- The state file is never a staging file: its name does not end in `.tmp`. -/
theorem Config.statePath_not_staging (c : Config) (dir : List String) (name : String) :
    Workspace.place? c.statePath ≠ some (dir ++ [name ++ ".tmp"]) := by
  intro h
  have hw := Workspace.walk_of_place h
  rw [Config.statePath, PathName.join,
    Workspace.walk_append_single _ (by simp)] at hw
  obtain ⟨d, -, hd⟩ := Option.map_eq_some_iff.1 hw
  have hname : "pipeline_state.json" = name ++ ".tmp" := by
    simpa using congrArg List.getLast? hd
  have hlast := congrArg (fun t : String => t.toList.getLast?) hname
  simp at hlast

namespace RunState

variable {α : Type} {codec : Codec α} {c : Config}

/-- Reading the preferences changes nothing but what the run has read. -/
theorem preferences_ok {s s₁ : RunState α} {ps : List (Preference α)}
    (h : s.preferences codec c = .ok (ps, s₁)) :
    s₁.files = s.files ∧ s₁.progress = s.progress ∧ s₁.events = s.events := by
  unfold preferences at h
  split at h
  · simp only [pure, Except.pure, Except.ok.injEq, Prod.mk.injEq] at h
    rw [← h.2]
    exact ⟨rfl, rfl, rfl⟩
  · simp only [bind_eq_ok, pure_eq_ok, Prod.mk.injEq] at h
    obtain ⟨ps', -, -, rfl⟩ := h
    exact ⟨rfl, rfl, rfl⟩

/-- Storing writes the content at the phase's output. -/
theorem store_eq (s : RunState α) (p : Phase) (content : Content α) :
    s.store c p content = ({ s with files := (s.files.writeStaged (c.outputOf p) content).1 },
      (s.files.writeStaged (c.outputOf p) content).2) := by
  unfold store
  rcases s.files.writeStaged (c.outputOf p) content with ⟨w, fault⟩
  rfl

variable [Scalar α]

/-- The recommendation text of the last phase is a text of lines when the number type's is. -/
theorem textFrom_lines (hcodec : ∀ recs, LinesText (codec.text recs))
    {table : Stored ItemTable} {joined : Stored (List (Int × RatedColumn α))} {text : String}
    (h : textFrom codec c table joined = .ok text) : LinesText text := by
  unfold textFrom at h
  split at h
  · simp only [bind_eq_ok, pure_eq_ok] at h
    obtain ⟨recs, -, rfl⟩ := h
    exact hcodec recs
  · -- the lines written from objects
    simp only [bind_eq_ok, pure_eq_ok] at h
    obtain ⟨⟨heap, tv⟩, -, ⟨heap', jv⟩, -, ⟨text', heap''⟩, hrun, rfl⟩ := h
    simp only [objectFailure, Except.mapError] at hrun
    split at hrun
    · simp at hrun
    · next r hr =>
      simp only [Except.ok.injEq] at hrun
      subst hrun
      exact Object.yields_bind (Object.yields_true _)
        (fun recs _ => Object.yields_recommendationLines recs) _ _ _ hr

variable [Inhabited α]

/-- What a phase produces leaves the files, the progress and the events as they are; when the
recommendation text is lines, it never reads as progress. -/
theorem produce_ok {s s₁ : RunState α} {p : Phase} {content : Content α}
    (h : s.produce codec c p = .ok (content, s₁)) :
    s₁.files = s.files ∧ s₁.progress = s.progress ∧ s₁.events = s.events ∧
      ((∀ recs, LinesText (codec.text recs)) → ReadsNoProgress content) := by
  cases p <;> simp only [produce, bind_eq_ok, pure_eq_ok, Prod.mk.injEq] at h
  case itemIndex =>
    obtain ⟨⟨ps, s₂⟩, hprefs, table, -, rfl, rfl⟩ := h
    obtain ⟨hf, hp, he⟩ := preferences_ok hprefs
    exact ⟨hf, hp, he, fun _ => readsNoProgress_dataset _⟩
  case userVectors =>
    obtain ⟨-, -, ⟨ps, s₂⟩, hprefs, d, -, rfl, rfl⟩ := h
    obtain ⟨hf, hp, he⟩ := preferences_ok hprefs
    exact ⟨hf, hp, he, fun _ => readsNoProgress_dataset _⟩
  case cooccurrence =>
    obtain ⟨-, -, d, -, rfl, rfl⟩ := h
    exact ⟨rfl, rfl, rfl, fun _ => readsNoProgress_dataset _⟩
  case partialMultiply =>
    obtain ⟨-, -, -, -, -, -, d, -, rfl, rfl⟩ := h
    exact ⟨rfl, rfl, rfl, fun _ => readsNoProgress_dataset _⟩
  case aggregate =>
    obtain ⟨table, -, joined, -, text, htext, rfl, rfl⟩ := h
    exact ⟨rfl, rfl, rfl, fun hcodec => (textFrom_lines hcodec htext).readsNoProgress⟩

/-- What the work of a phase can do: fail to produce, changing nothing, or write what it
produced at the phase's output path, the write ending as it may. -/
theorem work_cases (s : RunState α) (p : Phase) :
    (∃ f, s.produce codec c p = .error f ∧ s.work codec c p = (s, some f)) ∨
      ∃ content s₁, s.produce codec c p = .ok (content, s₁) ∧
        s.work codec c p = s₁.store c p content := by
  unfold work
  cases h : s.produce codec c p with
  | error f => exact .inl ⟨f, rfl, rfl⟩
  | ok r => exact .inr ⟨r.1, r.2, rfl, rfl⟩

/-- A phase's work keeps the progress and the events, however it ends. -/
theorem work_keeps {s s' : RunState α} {p : Phase} {r : Option Failure}
    (h : s.work codec c p = (s', r)) : s'.progress = s.progress ∧ s'.events = s.events := by
  rcases work_cases s p with ⟨f, -, hw⟩ | ⟨content, s₁, hp, hw⟩ <;> rw [hw] at h
  · rw [Prod.mk.injEq] at h
    rw [← h.1]
    exact ⟨rfl, rfl⟩
  · obtain ⟨-, hprog, hev, -⟩ := produce_ok hp
    rw [store_eq, Prod.mk.injEq] at h
    rw [← h.1]
    exact ⟨hprog, hev⟩

/-- **A phase's work that succeeds writes its output, whole, and nothing else**; when the
recommendation text is lines, what it writes never reads as progress. -/
theorem work_writes {s s' : RunState α} {p : Phase} (h : s.work codec c p = (s', none)) :
    ∃ content, ((∀ recs, LinesText (codec.text recs)) → ReadsNoProgress content) ∧
      s.files.writeWhole (c.outputOf p) content = .ok s'.files := by
  rcases work_cases s p with ⟨f, -, hw⟩ | ⟨content, s₁, hp, hw⟩ <;> rw [hw] at h
  · cases h
  · obtain ⟨hfiles, -, -, hno⟩ := produce_ok hp
    rw [store_eq, Prod.mk.injEq] at h
    refine ⟨content, hno, Workspace.writeWhole_eq_ok.2 ?_⟩
    rw [← hfiles, ← h.1]
    exact Prod.ext rfl h.2

/-- A phase's work that fails changes no file, or leaves what its refused write left. -/
theorem work_leftover {s s' : RunState α} {p : Phase} {f : Failure}
    (h : s.work codec c p = (s', some f)) :
    s'.files = s.files ∨ ∃ content, s.files.writeStaged (c.outputOf p) content = (s'.files, some f) := by
  rcases work_cases s p with ⟨g, -, hw⟩ | ⟨content, s₁, hp, hw⟩ <;> rw [hw] at h
  · rw [Prod.mk.injEq] at h
    exact .inl (by rw [← h.1])
  · obtain ⟨hfiles, -, -, -⟩ := produce_ok hp
    rw [store_eq, Prod.mk.injEq] at h
    refine .inr ⟨content, ?_⟩
    rw [← hfiles, ← h.1]
    exact Prod.ext rfl h.2

/-- Work that fails leaves the state file loading as it did, once the state file is there. -/
theorem load_work_leftover {s s' : RunState α} {p : Phase} {f : Failure} {content : Content α}
    (hw : s.work codec c p = (s', some f)) (hr : s.files.openRead c.statePath = .ok content) :
    Progress.load s'.files c.statePath = Progress.load s.files c.statePath := by
  rcases work_leftover hw with hsame | ⟨content, hleft⟩
  · rw [hsame]
  · obtain ⟨hk, hchanged⟩ := Workspace.writeStaged_leftover hleft
    refine Progress.load_of_keepsDirs hk hr fun loc hloc => ?_
    by_contra hne
    obtain ⟨dir, name, rfl⟩ := hchanged loc hne
    exact c.statePath_not_staging dir name hloc

end RunState

end ItemRecommender
