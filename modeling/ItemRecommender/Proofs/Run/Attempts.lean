import Mathlib
import ItemRecommender.Proofs.Run.Work

/-! # The phases a run attempts

    A run takes each phase in turn and decides what to do with it (`Config.choice`): stop, skip
    it, or run it under its fingerprint; `runPhases_cons` puts the run in that form. The phases
    it runs are its attempts (`attemptsFrom`), each with the state of the run as the phase
    began, and a history of runs in one working directory makes the attempts of each run in
    turn (`historyAttempts`). The attempts of a run are the phases it reports as started, in
    order (`startedPhases_runPhases`). -/

namespace ItemRecommender

/-- A phase that a run started: the configuration, the phase, its fingerprint under the
configuration, and the state of the run as the phase began. -/
structure Attempt where
  config : Config
  phase : Phase
  fingerprint : String
  start : RunState
  fingerprint_eq : config.fingerprint phase = .ok fingerprint

namespace Attempt

/-- The result of the attempt: the state it leaves, and why the run stopped in it, if it did. -/
def result (a : Attempt) : RunState × Option Stop :=
  a.start.runPhase Codec.double a.config a.phase a.fingerprint

/-- The attempt got past its first save: the state file then held its progress with its marker
and every later one dropped, and its work ran. -/
def Begun (a : Attempt) : Prop := ((a.start.begin a.phase).save a.config).2 = none

/-- The attempt completed: its work succeeded and its marker was saved. -/
def Completed (a : Attempt) : Prop := a.result.2 = none

/-- The attempt's work wrote the phase's output: the working directory after the work is the
one before it with a file written whole at the output path. -/
def WroteOutput (a : Attempt) : Prop :=
  ∃ s₁ s₂ content, (a.start.begin a.phase).save a.config = (s₁, none) ∧
    s₁.work Codec.double a.config a.phase = (s₂, none) ∧
    s₁.files.writeWhole (a.config.outputOf a.phase) content = .ok s₂.files

end Attempt

/-- What a run does with a phase it reaches. -/
inductive Choice where
  /-- The run ends here: past the end phase, without the output a later start needs, or
  without a fingerprint. -/
  | stop (r : Option Stop)
  /-- The phase is skipped, and the run notes why. -/
  | skip (e : Event)
  /-- The phase runs under its fingerprint. -/
  | attempt (fingerprint : String)

/-- What a run does with phase `p` in state `s`. -/
def Config.choice {α : Type} (c : Config) (p : Phase) (s : RunState α) : Choice :=
  if c.endPhase < p then .stop none
  else if p < c.startPhase then
    if s.files.exists? (c.outputOf p) then .skip (.skippedBefore p)
    else .stop (some (.halt (.missingOutput p c.startPhase (c.outputOf p))))
  else
    match c.fingerprint p with
    | .error f => .stop (some (.fault f))
    | .ok fp =>
      if c.resume && s.progress.isComplete p fp && s.files.exists? (c.outputOf p) then
        .skip (.skippedComplete p)
      else .attempt fp

/-- A phase is run under its fingerprint, at or after the start phase. -/
theorem choice_attempt {α : Type} {c : Config} {p : Phase} {s : RunState α} {fp : String}
    (h : c.choice p s = .attempt fp) : c.fingerprint p = .ok fp ∧ ¬ p < c.startPhase := by
  unfold Config.choice at h
  split_ifs at h with hend hstart
  split at h
  · cases h
  · next fp' hfp =>
    split_ifs at h
    cases h
    exact ⟨hfp, hstart⟩

/-- A run takes a phase by its choice. -/
theorem runPhases_cons {α : Type} [Scalar α] [Inhabited α] (codec : Codec α) (c : Config)
    (p : Phase) (rest : List Phase) (s : RunState α) :
    runPhases codec c (p :: rest) s =
      match c.choice p s with
      | .stop r => (s, r)
      | .skip e => runPhases codec c rest (s.note e)
      | .attempt fp =>
        match s.runPhase codec c p fp with
        | (s', none) => runPhases codec c rest s'
        | (s', some stop) => (s', some stop) := by
  conv_lhs => unfold runPhases
  unfold Config.choice
  dsimp only
  -- both sides decide on the same fingerprint
  cases hfp : c.fingerprint p with
  | error f => split_ifs <;> rfl
  | ok fp =>
    dsimp only
    split_ifs <;> rfl

/-- The phases a run attempts, from a list of phases and a state. -/
def attemptsFrom (c : Config) : List Phase → RunState → List Attempt
  | [], _ => []
  | p :: rest, s =>
    match h : c.choice p s with
    | .stop _ => []
    | .skip e => attemptsFrom c rest (s.note e)
    | .attempt fp =>
      ⟨c, p, fp, s, (choice_attempt h).1⟩ ::
        match s.runPhase Codec.double c p fp with
        | (s', none) => attemptsFrom c rest s'
        | (_, some _) => []

/-- A run that stops at a phase attempts nothing more. -/
theorem attemptsFrom_stop {c : Config} {p : Phase} {rest : List Phase} {s : RunState}
    {r : Option Stop} (h : c.choice p s = .stop r) : attemptsFrom c (p :: rest) s = [] := by
  rw [attemptsFrom]
  split <;> simp_all

/-- A skipped phase is not attempted. -/
theorem attemptsFrom_skip {c : Config} {p : Phase} {rest : List Phase} {s : RunState} {e : Event}
    (h : c.choice p s = .skip e) : attemptsFrom c (p :: rest) s = attemptsFrom c rest (s.note e) := by
  rw [attemptsFrom]
  split <;> simp_all

/-- An attempted phase comes first, then what the run attempts after it. -/
theorem attemptsFrom_attempt {c : Config} {p : Phase} {rest : List Phase} {s : RunState}
    {fp : String} (h : c.choice p s = .attempt fp) :
    attemptsFrom c (p :: rest) s = ⟨c, p, fp, s, (choice_attempt h).1⟩ ::
      match s.runPhase Codec.double c p fp with
      | (s', none) => attemptsFrom c rest s'
      | (_, some _) => [] := by
  rw [attemptsFrom]
  split
  · simp_all
  · simp_all
  · next fp' h' =>
    obtain rfl : fp' = fp := (by simpa [h] using h' : fp = fp').symm
    rfl

/-- The phases a run of a configuration attempts in a working directory. -/
def Config.attempts (c : Config) (w : Workspace) : List Attempt :=
  match Progress.load w c.statePath with
  | .error _ => []
  | .ok progress => attemptsFrom c Phase.all ⟨w, progress, none, []⟩

/-- The working directory after runs of configurations one after another. -/
def history : List Config → Workspace → Workspace
  | [], w => w
  | c :: cs, w => history cs (c.run w).files

/-- The attempts of runs of configurations one after another, in order. -/
def historyAttempts : List Config → Workspace → List Attempt
  | [], _ => []
  | c :: cs, w => c.attempts w ++ historyAttempts cs (c.run w).files

/-! ## The attempts are the started phases -/

/-- The phase an event reports as started. -/
def Event.started? : Event → Option Phase
  | .started p => some p
  | _ => none

namespace RunState

variable {α : Type}

@[simp] theorem note_files (s : RunState α) (e : Event) : (s.note e).files = s.files := rfl

@[simp] theorem note_progress (s : RunState α) (e : Event) : (s.note e).progress = s.progress := rfl

@[simp] theorem note_events (s : RunState α) (e : Event) : (s.note e).events = s.events ++ [e] :=
  rfl

@[simp] theorem begin_files (s : RunState α) (p : Phase) : (s.begin p).files = s.files := rfl

@[simp] theorem begin_progress (s : RunState α) (p : Phase) :
    (s.begin p).progress = s.progress.invalidateFrom p := rfl

@[simp] theorem begin_events (s : RunState α) (p : Phase) :
    (s.begin p).events = s.events ++ [.started p] := rfl

/-- Saving changes the files only, as writing the progress to the state file does, whether the
write ends well or not. -/
theorem save_eq {c : Config} {s s' : RunState α} {r : Option Failure} (h : s.save c = (s', r)) :
    s.progress.write s.files c.statePath = (s'.files, r) ∧ s'.progress = s.progress ∧
      s'.events = s.events := by
  unfold save at h
  rcases hw : s.progress.write s.files c.statePath with ⟨w, fault⟩
  rw [hw, Prod.mk.injEq] at h
  obtain ⟨rfl, rfl⟩ := h
  exact ⟨rfl, rfl, rfl⟩

variable [Scalar α] [Inhabited α] (codec : Codec α) (c : Config)

/-- What a phase run can do: fail to save its dropped markers; have its work fail, with words
that cannot be written or with a failure of the phase; fail to save its marker; or complete. -/
theorem runPhase_cases (s : RunState α) (p : Phase) (fp : String) :
    (∃ s₁ f, (s.begin p).save c = (s₁, some f) ∧
      s.runPhase codec c p fp = (s₁, some (.fault f))) ∨
    (∃ s₁ s₂ f g, (s.begin p).save c = (s₁, none) ∧ s₁.work codec c p = (s₂, some f) ∧
      f.wordsFault? = some g ∧ s.runPhase codec c p fp = (s₂, some (.fault g))) ∨
    (∃ s₁ s₂ f, (s.begin p).save c = (s₁, none) ∧ s₁.work codec c p = (s₂, some f) ∧
      f.wordsFault? = none ∧ s.runPhase codec c p fp = (s₂, some (.halt (.failed p f)))) ∨
    (∃ s₁ s₂ s₃ f, (s.begin p).save c = (s₁, none) ∧ s₁.work codec c p = (s₂, none) ∧
      ({ s₂ with progress := s₂.progress.mark p fp } : RunState α).save c = (s₃, some f) ∧
      s.runPhase codec c p fp = (s₃, some (.fault f))) ∨
    (∃ s₁ s₂ s₃, (s.begin p).save c = (s₁, none) ∧ s₁.work codec c p = (s₂, none) ∧
      ({ s₂ with progress := s₂.progress.mark p fp } : RunState α).save c = (s₃, none) ∧
      s.runPhase codec c p fp = (s₃, none)) := by
  unfold runPhase
  rcases h₁ : (s.begin p).save c with ⟨s₁, _ | f⟩
  · rcases h₂ : s₁.work codec c p with ⟨s₂, _ | f⟩
    · rcases h₃ : ({ s₂ with progress := s₂.progress.mark p fp } : RunState α).save c with
        ⟨s₃, _ | f⟩
      · exact .inr (.inr (.inr (.inr ⟨s₁, s₂, s₃, rfl, h₂, h₃, by simp [h₂, h₃]⟩)))
      · exact .inr (.inr (.inr (.inl ⟨s₁, s₂, s₃, f, rfl, h₂, h₃, by simp [h₂, h₃]⟩)))
    · cases h₃ : f.wordsFault? with
      | some g => exact .inr (.inl ⟨s₁, s₂, f, g, rfl, h₂, h₃, by simp [h₂, h₃]⟩)
      | none => exact .inr (.inr (.inl ⟨s₁, s₂, f, rfl, h₂, h₃, by simp [h₂, h₃]⟩))
  · exact .inl ⟨s₁, f, rfl, rfl⟩

/-- A phase run reports itself started, and nothing else. -/
theorem runPhase_events (s : RunState α) (p : Phase) (fp : String) :
    (s.runPhase codec c p fp).1.events = s.events ++ [.started p] := by
  rcases runPhase_cases codec c s p fp with
    ⟨s₁, f, h₁, hr⟩ | ⟨s₁, s₂, f, g, h₁, h₂, -, hr⟩ | ⟨s₁, s₂, f, h₁, h₂, -, hr⟩ |
    ⟨s₁, s₂, s₃, f, h₁, h₂, h₃, hr⟩ | ⟨s₁, s₂, s₃, h₁, h₂, h₃, hr⟩ <;> rw [hr]
  · exact (save_eq h₁).2.2
  · exact (work_keeps h₂).2.trans (save_eq h₁).2.2
  · exact (work_keeps h₂).2.trans (save_eq h₁).2.2
  · exact (save_eq h₃).2.2.trans ((work_keeps h₂).2.trans (save_eq h₁).2.2)
  · exact (save_eq h₃).2.2.trans ((work_keeps h₂).2.trans (save_eq h₁).2.2)

end RunState

theorem started?_skip {α : Type} {c : Config} {p : Phase} {s : RunState α} {e : Event}
    (h : c.choice p s = .skip e) : e.started? = none := by
  unfold Config.choice at h
  split_ifs at h
  · cases h
    rfl
  · split at h
    · cases h
    · split_ifs at h
      cases h
      rfl

/-- The attempts of a run are the phases it reports as started, in order. -/
theorem startedPhases_runPhases (c : Config) :
    ∀ (ps : List Phase) (s : RunState), ∃ new, (runPhases Codec.double c ps s).1.events =
      s.events ++ new ∧
      new.filterMap Event.started? = (attemptsFrom c ps s).map Attempt.phase := by
  intro ps
  induction ps with
  | nil => intro s; exact ⟨[], by simp [runPhases], by simp [attemptsFrom]⟩
  | cons p rest ih =>
    intro s
    rw [runPhases_cons]
    cases hch : c.choice p s with
    | stop r => exact ⟨[], by simp, by simp [attemptsFrom_stop hch]⟩
    | skip e =>
      -- a skipped phase is reported, but not as started
      obtain ⟨new, hnew, hmap⟩ := ih (s.note e)
      refine ⟨e :: new, by simp [hnew], ?_⟩
      simp [attemptsFrom_skip hch, started?_skip hch, hmap]
    | attempt fp =>
      rw [attemptsFrom_attempt hch]
      dsimp only
      have hevents := RunState.runPhase_events Codec.double c s p fp
      cases hr : s.runPhase Codec.double c p fp with
      | mk s' stop =>
        rw [hr] at hevents
        simp only at hevents
        cases stop with
        | none =>
          obtain ⟨new, hnew, hmap⟩ := ih s'
          refine ⟨.started p :: new, by simp [hnew, hevents], ?_⟩
          simp [Event.started?, hmap]
        | some stop => exact ⟨[.started p], hevents, by simp [Event.started?]⟩

end ItemRecommender
