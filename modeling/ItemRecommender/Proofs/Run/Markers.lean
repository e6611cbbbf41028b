import Mathlib
import ItemRecommender.Proofs.Run.Attempts

/-! # Completion markers never overstate

    Over any history of runs sharing one temporary directory, every marker in the state file
    was set by the phase it names: the last attempt at that phase or an earlier one that got
    past saving its dropped markers is an attempt at the phase itself, under the marker's
    fingerprint, that completed and wrote its output (`Vouched`).

    The invariant is kept in two places. The progress a run carries is vouched for by the
    attempts so far, and so is any progress the file at the place of the state path holds
    (`FileVouched`). A phase that begins drops its marker and the later ones, so the markers
    left are those of earlier phases, whose attempts are still the last ones below them; saving
    puts that progress in the state file. A phase's work writes only its output, which never
    reads as progress. A completed phase marks itself. Loading the state file, a run starts from
    vouched progress.

    A write refused part way leaves its staging file, which is never the state file
    (`Config.statePath_not_staging`), so the state file stays vouched for. An attempt whose first
    save is refused changes no marker of the state file: a marker can outlive a later start of
    its phase that never got past that save (`marker_outlives_unsaved_start`). -/

namespace ItemRecommender

open Workspace

/-- Progress is vouched for by a log of attempts: its markers are phase markers, and the marker
of phase `p` with fingerprint `f` was set by an attempt at `p` under `f` that completed and
wrote its output, after which no attempt at `p` or an earlier phase began. -/
def Vouched (log : List Attempt) (P : Progress) : Prop :=
  P.PhaseKeys ∧ ∀ p f, P.marks.get? p.toNat = some f →
    ∃ pre a post, log = pre ++ a :: post ∧ a.phase = p ∧ a.fingerprint = f ∧ a.Completed ∧
      a.WroteOutput ∧ ∀ b ∈ post, b.phase ≤ p → ¬ b.Begun

/-- Whatever progress the file at the place of the state path holds is vouched for. -/
def FileVouched (S : PathName) (log : List Attempt) (w : Workspace) : Prop :=
  ∀ c text, w.fileAtPath? S = some c → decodeText c = .ok text →
    Vouched log (Progress.ofText text)

variable {log : List Attempt} {S : PathName}

/-! ## Vouched progress -/

theorem vouched_fresh (log : List Attempt) : Vouched log Progress.fresh :=
  ⟨Progress.phaseKeys_fresh, fun p f h => by simp [Progress.fresh] at h⟩

/-- Attempts that never began vouch for what the log before them vouched for. -/
theorem Vouched.append {P : Progress} (h : Vouched log P) {extra : List Attempt}
    (hextra : ∀ b ∈ extra, ¬ b.Begun) : Vouched (log ++ extra) P := by
  refine ⟨h.1, fun p f hf => ?_⟩
  obtain ⟨pre, a, post, rfl, hp, hfp, hc, hw, hpost⟩ := h.2 p f hf
  refine ⟨pre, a, post ++ extra, by simp, hp, hfp, hc, hw, fun b hb hle => ?_⟩
  rcases List.mem_append.1 hb with hb | hb
  · exact hpost b hb hle
  · exact hextra b hb

theorem phase_eq_of_toNat {p q : Phase} (h : (p.toNat : Int) = q.toNat) : p = q := by
  cases p <;> cases q <;> simp_all [Phase.toNat]

/-- The markers an attempt keeps as it begins are those of earlier phases, whose attempts stay
the last ones below them. -/
theorem Vouched.invalidateFrom {P : Progress} (h : Vouched log P) (a : Attempt) :
    Vouched (log ++ [a]) (P.invalidateFrom a.phase) := by
  refine ⟨h.1.invalidateFrom a.phase, fun p f hf => ?_⟩
  simp only [Progress.invalidateFrom, Ledger.get?_filter, Option.filter_eq_some_iff,
    decide_eq_true_eq] at hf
  obtain ⟨hf, hlt⟩ := hf
  obtain ⟨pre, b, post, rfl, hp, hfp, hc, hw, hpost⟩ := h.2 p f hf
  refine ⟨pre, b, post ++ [a], by simp, hp, hfp, hc, hw, fun b' hb' hle => ?_⟩
  rcases List.mem_append.1 hb' with hb' | hb'
  · exact hpost b' hb' hle
  · -- the new attempt lies above every marker it keeps
    rw [List.mem_singleton] at hb'
    subst hb'
    have hlt' : p.toNat < b'.phase.toNat := by exact_mod_cast hlt
    exact absurd hle (Nat.not_le.2 hlt')

/-- A completed attempt that wrote its output vouches for its own marker. -/
theorem Vouched.mark {P : Progress} (a : Attempt) (h : Vouched (log ++ [a]) P)
    (hc : a.Completed) (hw : a.WroteOutput) : Vouched (log ++ [a]) (P.mark a.phase a.fingerprint) := by
  refine ⟨h.1.mark a.phase a.fingerprint, fun p f hf => ?_⟩
  simp only [Progress.mark, Ledger.get?_insert] at hf
  split_ifs at hf with hp
  · obtain rfl := phase_eq_of_toNat hp
    obtain rfl := Option.some.inj hf
    exact ⟨log, a, [], rfl, rfl, rfl, hc, hw, by simp⟩
  · exact h.2 p f hf

/-! ## The state file -/

/-- Attempts that never began keep the state file vouched for. -/
theorem FileVouched.append {w : Workspace} (h : FileVouched S log w) {extra : List Attempt}
    (hextra : ∀ b ∈ extra, ¬ b.Begun) : FileVouched S (log ++ extra) w :=
  fun c text hc ht => (h c text hc ht).append hextra

/-- A run loading its progress from a path with the place of the state file starts from vouched
progress. -/
theorem FileVouched.load {w : Workspace} {S' : PathName} {P : Progress} (h : FileVouched S log w)
    (hS : place? S' = place? S) (hl : Progress.load w S' = .ok P) : Vouched log P := by
  rcases Progress.load_ok hl with rfl | ⟨loc, c, text, hplace, hfile, htext, rfl⟩
  · exact vouched_fresh log
  · exact h c text (by simp [fileAtPath?, ← hS, hplace, hfile]) htext

/-- Writing vouched progress whole at a path with the place of the state file leaves it there. -/
theorem fileVouched_write {w w' : Workspace} {S' : PathName} {P : Progress} (hP : Vouched log P)
    (hS : place? S' = place? S) (hs : P.write w S' = (w', none)) : FileVouched S log w' := by
  obtain ⟨there, hplace, hthere, -⟩ := writeWhole_fileAt? (writeWhole_eq_ok.2 hs)
  intro c text hc htext
  simp only [fileAtPath?, ← hS, hplace, Option.bind_some, hthere, Option.some.injEq] at hc
  subst hc
  rw [decodeText_toUTF8, Except.ok.injEq] at htext
  subst htext
  rw [Progress.ofText_render P hP.1]
  exact hP

/-- A file written whole keeps the state file vouched for when what it holds reads as no
progress. -/
theorem FileVouched.writeWhole {w w' : Workspace} {path : PathName} {content : Content}
    (h : FileVouched S log w) (hfresh : ReadsNoProgress content)
    (hwrite : w.writeWhole path content = .ok w') : FileVouched S log w' := by
  obtain ⟨there, -, hthere, hrest⟩ := writeWhole_fileAt? hwrite
  intro c' text hc htext
  simp only [fileAtPath?, Option.bind_eq_some_iff] at hc
  obtain ⟨loc, hplace, hfile⟩ := hc
  by_cases hloc : loc = there
  · -- the output is written over the state file
    subst hloc
    rw [hthere, Option.some.injEq] at hfile
    subst hfile
    rw [hfresh text htext]
    exact vouched_fresh log
  · rcases hrest loc hloc with hnone | hsame
    · rw [hnone] at hfile
      cases hfile
    · exact h c' text (by simp [fileAtPath?, hplace, ← hsame, hfile]) htext

/-- What a refused write leaves, a staging file, keeps the state file vouched for, at a place
that is no staging file's. -/
theorem FileVouched.leftover {w w' : Workspace} (h : FileVouched S log w)
    (hS : ∀ dir name, place? S ≠ some (dir ++ [name ++ ".tmp"]))
    (hleft : ∀ l, w'.fileAt? l ≠ w.fileAt? l → ∃ dir name, l = dir ++ [name ++ ".tmp"]) :
    FileVouched S log w' := by
  intro c text hc htext
  simp only [fileAtPath?, Option.bind_eq_some_iff] at hc
  obtain ⟨loc, hplace, hfile⟩ := hc
  by_cases hsame : w'.fileAt? loc = w.fileAt? loc
  · exact h c text (by simp [fileAtPath?, hplace, ← hsame, hfile]) htext
  · obtain ⟨dir, name, rfl⟩ := hleft loc hsame
    exact absurd hplace (hS dir name)

/-- A phase's work, however it ends, keeps the state file vouched for: what it writes whole
reads as no progress, and a refused write leaves only its staging file. -/
theorem FileVouched.work {c : Config} {p : Phase} {s s' : RunState} {r : Option Failure}
    (h : FileVouched S log s.files) (hS : ∀ dir name, place? S ≠ some (dir ++ [name ++ ".tmp"]))
    (hw : s.work Codec.double c p = (s', r)) : FileVouched S log s'.files := by
  cases r with
  | none =>
    obtain ⟨content, hno, hwrite⟩ := RunState.work_writes hw
    exact h.writeWhole (hno linesText_recommendationText) hwrite
  | some f =>
    rcases RunState.work_leftover hw with hsame | ⟨content, hleft⟩
    · rwa [hsame]
    · exact h.leftover hS (writeStaged_leftover hleft).2

/-! ## One attempt -/

/-- **One attempt keeps the invariant.** Whatever the attempt does, the state file stays
vouched for by the log with the attempt added; when it completes, so is the progress it
carries on. -/
theorem Attempt.step (a : Attempt) (hS : place? a.config.statePath = place? S)
    (hv : Vouched log a.start.progress) (hf : FileVouched S log a.start.files) :
    FileVouched S (log ++ [a]) a.result.1.files ∧
      (a.result.2 = none → Vouched (log ++ [a]) a.result.1.progress) := by
  have hstaging : ∀ dir name, place? S ≠ some (dir ++ [name ++ ".tmp"]) :=
    hS ▸ a.config.statePath_not_staging
  -- the progress saved at the start of the attempt
  have hsaved : ∀ s₁, (a.start.begin a.phase).save a.config = (s₁, none) →
      Vouched (log ++ [a]) s₁.progress ∧ FileVouched S (log ++ [a]) s₁.files := by
    intro s₁ h₁
    obtain ⟨hw₁, hp₁, -⟩ := RunState.save_eq h₁
    have hv₁ : Vouched (log ++ [a]) s₁.progress := by
      rw [hp₁, RunState.begin_progress]
      exact hv.invalidateFrom a
    exact ⟨hv₁, fileVouched_write hv₁ hS (by rw [hp₁]; exact hw₁)⟩
  rcases RunState.runPhase_cases Codec.double a.config a.start a.phase a.fingerprint with
    ⟨s₁, f, h₁, hr⟩ | ⟨s₁, s₂, f, g, h₁, h₂, -, hr⟩ | ⟨s₁, s₂, f, h₁, h₂, -, hr⟩ |
    ⟨s₁, s₂, s₃, f, h₁, h₂, h₃, hr⟩ | ⟨s₁, s₂, s₃, h₁, h₂, h₃, hr⟩ <;>
    simp only [Attempt.result, hr, reduceCtorEq, false_imp_iff, and_true, forall_const]
  · -- the first save was refused: the attempt never began, and left only its staging file
    have hnot : ¬ a.Begun := by simp [Attempt.Begun, h₁]
    obtain ⟨hw₁, -, -⟩ := RunState.save_eq h₁
    exact (hf.append (by simpa using hnot)).leftover hstaging (writeStaged_leftover hw₁).2
  · exact (hsaved s₁ h₁).2.work hstaging h₂
  · exact (hsaved s₁ h₁).2.work hstaging h₂
  · obtain ⟨hw₃, -, -⟩ := RunState.save_eq h₃
    exact ((hsaved s₁ h₁).2.work hstaging h₂).leftover hstaging (writeStaged_leftover hw₃).2
  · -- the attempt completed: its marker is vouched for by itself
    obtain ⟨content, -, hwrite⟩ := RunState.work_writes h₂
    obtain ⟨hprogress, -⟩ := RunState.work_keeps h₂
    have hc : a.Completed := by simp [Attempt.Completed, Attempt.result, hr]
    have hwrote : a.WroteOutput := ⟨s₁, s₂, content, h₁, h₂, hwrite⟩
    obtain ⟨hw₃, hp₃, -⟩ := RunState.save_eq h₃
    have hv₃ : Vouched (log ++ [a]) s₃.progress := by
      rw [hp₃]
      simp only [hprogress]
      exact ((hsaved s₁ h₁).1).mark a hc hwrote
    exact ⟨fileVouched_write hv₃ hS (by rw [hp₃]; exact hw₃), hv₃⟩

/-! ## Runs and histories -/

/-- **A run of phases keeps the invariant**, from any state whose progress and state file are
vouched for. -/
theorem runPhases_vouched (c : Config) (hS : place? c.statePath = place? S) :
    ∀ (ps : List Phase) (s : RunState) (log : List Attempt), Vouched log s.progress →
      FileVouched S log s.files →
        FileVouched S (log ++ attemptsFrom c ps s) (runPhases Codec.double c ps s).1.files := by
  intro ps
  induction ps with
  | nil => intro s log _ hf; simpa [runPhases, attemptsFrom] using hf
  | cons p rest ih =>
    intro s log hv hf
    rw [runPhases_cons]
    cases hch : c.choice p s with
    | stop r => simpa [attemptsFrom_stop hch] using hf
    | skip e =>
      rw [attemptsFrom_skip hch]
      exact ih (s.note e) log hv hf
    | attempt fp =>
      rw [attemptsFrom_attempt hch]
      have hstep := Attempt.step ⟨c, p, fp, s, (choice_attempt hch).1⟩ hS hv hf
      simp only [Attempt.result] at hstep
      dsimp only
      cases hr : s.runPhase Codec.double c p fp with
      | mk s' stop =>
        rw [hr] at hstep
        cases stop with
        | none =>
          have := ih s' _ (hstep.2 rfl) hstep.1
          simpa using this
        | some stop => simpa using hstep.1

/-- **A run keeps the invariant**: it loads vouched progress from the state file. -/
theorem run_vouched {c : Config} (hS : place? c.statePath = place? S) {w : Workspace}
    (hf : FileVouched S log w) : FileVouched S (log ++ c.attempts w) (c.run w).files := by
  unfold Config.run Config.runWith Config.attempts
  cases hl : Progress.load w c.statePath with
  | error f => simpa using hf
  | ok P =>
    have hrun := runPhases_vouched c hS Phase.all ⟨w, P, none, []⟩ log (hf.load hS hl) hf
    dsimp only
    split
    · next s hs => rw [hs] at hrun; exact hrun
    · next s stop hs => rw [hs] at hrun; exact hrun

/-- **A history of runs keeps the invariant.** -/
theorem history_vouched (cs : List Config) (hS : ∀ c ∈ cs, place? c.statePath = place? S) :
    ∀ (w : Workspace) (log : List Attempt), FileVouched S log w →
      FileVouched S (log ++ historyAttempts cs w) (history cs w) := by
  induction cs with
  | nil => intro w log hf; simpa [history, historyAttempts] using hf
  | cons c cs ih =>
    intro w log hf
    have hrun := run_vouched (hS c (List.mem_cons_self ..)) hf
    have := ih (fun c' hc' => hS c' (List.mem_cons_of_mem _ hc')) _ _ hrun
    simpa [history, historyAttempts] using this

/-! ## Runs that stop -/

/-- A run stops before a phase without output only below its start phase, and otherwise on a
fault or at its end. -/
theorem choice_stop {c : Config} {p : Phase} {s : RunState} {r : Option Stop}
    (h : c.choice p s = .stop r) :
    r = none ∨ (p < c.startPhase ∧ r = some (.halt (.missingOutput p c.startPhase (c.outputOf p)))) ∨
      ∃ f, r = some (.fault f) := by
  unfold Config.choice at h
  split_ifs at h with hend hstart
  · cases h
    exact Or.inl rfl
  · cases h
    exact Or.inr (Or.inl ⟨hstart, rfl⟩)
  · split at h
    · cases h
      exact Or.inr (Or.inr ⟨_, rfl⟩)
    · split_ifs at h

/-- A phase run stops on a fault, or in its own phase with its work failing after its first
save. -/
theorem runPhase_stop {c : Config} {s s' : RunState} {p : Phase} {fp : String} {stop : Stop}
    (h : s.runPhase Codec.double c p fp = (s', some stop)) :
    (∃ f, stop = .fault f) ∨ ∃ f s₁, stop = .halt (.failed p f) ∧
      (s.begin p).save c = (s₁, none) ∧ s₁.work Codec.double c p = (s', some f) := by
  rcases RunState.runPhase_cases Codec.double c s p fp with
    ⟨s₁, f, -, hr⟩ | ⟨s₁, s₂, f, g, -, -, -, hr⟩ | ⟨s₁, s₂, f, h₁, h₂, -, hr⟩ |
    ⟨s₁, s₂, s₃, f, -, -, -, hr⟩ | ⟨s₁, s₂, s₃, -, -, -, hr⟩ <;> rw [hr] at h <;>
    simp only [Prod.mk.injEq, Option.some.injEq, reduceCtorEq, and_false] at h
  · exact Or.inl ⟨f, h.2.symm⟩
  · exact Or.inl ⟨g, h.2.symm⟩
  · obtain ⟨rfl, rfl⟩ := h
    exact Or.inr ⟨f, s₁, rfl, h₁, h₂⟩
  · exact Or.inl ⟨f, h.2.symm⟩

/-- A phase run keeps the markers keyed by phases. -/
theorem RunState.runPhase_phaseKeys (c : Config) (s : RunState) (p : Phase) (fp : String)
    (h : s.progress.PhaseKeys) : (s.runPhase Codec.double c p fp).1.progress.PhaseKeys := by
  have hbegin : (s.begin p).progress.PhaseKeys := h.invalidateFrom p
  rcases RunState.runPhase_cases Codec.double c s p fp with
    ⟨s₁, f, h₁, hr⟩ | ⟨s₁, s₂, f, g, h₁, h₂, -, hr⟩ | ⟨s₁, s₂, f, h₁, h₂, -, hr⟩ |
    ⟨s₁, s₂, s₃, f, h₁, h₂, h₃, hr⟩ | ⟨s₁, s₂, s₃, h₁, h₂, h₃, hr⟩ <;> rw [hr]
  · exact (RunState.save_eq h₁).2.1 ▸ hbegin
  · exact ((RunState.work_keeps h₂).1.trans (RunState.save_eq h₁).2.1) ▸ hbegin
  · exact ((RunState.work_keeps h₂).1.trans (RunState.save_eq h₁).2.1) ▸ hbegin
  · rw [(RunState.save_eq h₃).2.1]
    exact ((RunState.work_keeps h₂).1.trans (RunState.save_eq h₁).2.1 ▸ hbegin).mark p fp
  · rw [(RunState.save_eq h₃).2.1]
    exact ((RunState.work_keeps h₂).1.trans (RunState.save_eq h₁).2.1 ▸ hbegin).mark p fp

/-- A run whose work fails in phase `q` leaves in the state file the progress its last attempt,
at `q`, began with, without the marker of `q` and the later ones. -/
theorem runPhases_failed (c : Config) :
    ∀ (ps : List Phase) (s : RunState) (q : Phase) (f : Failure), s.progress.PhaseKeys →
      (runPhases Codec.double c ps s).2 = some (.halt (.failed q f)) →
      ∃ a, (attemptsFrom c ps s).getLast? = some a ∧ a.phase = q ∧
        Progress.load (runPhases Codec.double c ps s).1.files c.statePath =
          .ok (a.start.progress.invalidateFrom q) := by
  intro ps
  induction ps with
  | nil => intro s q f _ h; simp [runPhases] at h
  | cons p rest ih =>
    intro s q f hP h
    rw [runPhases_cons] at h ⊢
    cases hch : c.choice p s with
    | stop r =>
      rw [hch] at h
      rcases choice_stop hch with rfl | ⟨-, rfl⟩ | ⟨f', rfl⟩ <;> simp at h
    | skip e =>
      rw [hch] at h
      rw [attemptsFrom_skip hch]
      exact ih (s.note e) q f hP h
    | attempt fp =>
      rw [hch] at h
      rw [attemptsFrom_attempt hch]
      dsimp only at h ⊢
      cases hr : s.runPhase Codec.double c p fp with
      | mk s' stop =>
        rw [hr] at h
        cases stop with
        | none =>
          -- the run went on: the failure lies in a later attempt
          have hP' : s'.progress.PhaseKeys := by
            simpa [hr] using RunState.runPhase_phaseKeys c s p fp hP
          obtain ⟨a, hlast, hphase, hload⟩ := ih s' q f hP' h
          exact ⟨a, by rw [List.getLast?_cons, hlast]; rfl, hphase, hload⟩
        | some stop =>
          simp only [Option.some.injEq] at h
          subst h
          rcases runPhase_stop hr with ⟨f', hf'⟩ | ⟨f', s₁, hf', hsave, hwork⟩
          · cases hf'
          · -- the attempt saved its dropped markers, and its work failed
            simp only [Stop.halt.injEq, Halt.failed.injEq] at hf'
            obtain ⟨rfl, rfl⟩ := hf'
            obtain ⟨hw, hp, -⟩ := RunState.save_eq hsave
            have hsaved := writeWhole_eq_ok.2 hw
            refine ⟨⟨c, q, fp, s, (choice_attempt hch).1⟩, rfl, rfl, ?_⟩
            rw [RunState.load_work_leftover hwork (openRead_writeWhole hsaved).2]
            exact Progress.load_save (hP.invalidateFrom q) hsaved

/-- A run of phases none of which lies below the start phase never misses an output. -/
theorem runPhases_not_missing (c : Config) :
    ∀ (ps : List Phase) (s : RunState), (∀ q ∈ ps, ¬ q < c.startPhase) →
      ∀ q st path, (runPhases Codec.double c ps s).2 ≠ some (.halt (.missingOutput q st path)) := by
  intro ps
  induction ps with
  | nil => intro s _ q st path; simp [runPhases]
  | cons p rest ih =>
    intro s hps q st path h
    rw [runPhases_cons] at h
    have hrest : ∀ q ∈ rest, ¬ q < c.startPhase := fun q hq => hps q (List.mem_cons_of_mem _ hq)
    cases hch : c.choice p s with
    | stop r =>
      rw [hch] at h
      rcases choice_stop hch with rfl | ⟨hp, -⟩ | ⟨f', rfl⟩
      · simp at h
      · exact hps p (List.mem_cons_self ..) hp
      · simp at h
    | skip e =>
      rw [hch] at h
      exact ih (s.note e) hrest q st path h
    | attempt fp =>
      rw [hch] at h
      dsimp only at h
      cases hr : s.runPhase Codec.double c p fp with
      | mk s' stop =>
        rw [hr] at h
        cases stop with
        | none => exact ih s' hrest q st path h
        | some stop =>
          simp only [Option.some.injEq] at h
          subst h
          rcases runPhase_stop hr with ⟨f', hf'⟩ | ⟨f', -, hf', -⟩ <;> cases hf'

/-- A run of ascending phases that misses an output below its start phase has changed no file:
every phase before it was skipped. -/
theorem runPhases_missing (c : Config) :
    ∀ (ps : List Phase) (s : RunState), ps.Pairwise (· < ·) →
      ∀ q st path, (runPhases Codec.double c ps s).2 = some (.halt (.missingOutput q st path)) →
        (runPhases Codec.double c ps s).1.files = s.files := by
  intro ps
  induction ps with
  | nil => intro s _ q st path h; simp [runPhases] at h
  | cons p rest ih =>
    intro s hps q st path h
    rw [List.pairwise_cons] at hps
    rw [runPhases_cons] at h ⊢
    cases hch : c.choice p s with
    | stop r => rfl
    | skip e =>
      rw [hch] at h
      exact ih (s.note e) hps.2 q st path h
    | attempt fp =>
      -- a phase at or past the start runs, and every later phase lies past the start too
      exfalso
      rw [hch] at h
      dsimp only at h
      have hstart := (choice_attempt hch).2
      have hrest : ∀ q ∈ rest, ¬ q < c.startPhase := by
        intro q hq hlt
        have hpq : p.toNat < q.toNat := hps.1 q hq
        exact hstart (show p.toNat < c.startPhase.toNat from by
          have : q.toNat < c.startPhase.toNat := hlt
          omega)
      cases hr : s.runPhase Codec.double c p fp with
      | mk s' stop =>
        rw [hr] at h
        cases stop with
        | none => exact runPhases_not_missing c rest s' hrest q st path h
        | some stop =>
          simp only [Option.some.injEq] at h
          subst h
          rcases runPhase_stop hr with ⟨f', hf'⟩ | ⟨f', -, hf', -⟩ <;> cases hf'

/-! ## Markers over a history -/

/-- **Completion markers never overstate.** Take a history of runs whose state paths all reach
one place, that of `S`, with no file there before the first run.
* Every marker the state file holds after it was set by the phase it names: by the last attempt
  at that phase or an earlier one that got past saving its dropped markers, an attempt at the
  phase itself, under the marker's fingerprint (its configuration's fingerprint of the phase),
  that completed and wrote its output.
* A next run that fails in the work of phase `p` leaves in the state file exactly the markers
  below `p` that it held as it began the phase.
* A run that stops because an output below its start phase is missing changes no file. -/
theorem markers_never_overstate (S : PathName) (cs : List Config) (w₀ : Workspace)
    (hS : ∀ c ∈ cs, place? c.statePath = place? S) (h₀ : w₀.fileAtPath? S = none) :
    (∀ P, Progress.load (history cs w₀) S = .ok P → Vouched (historyAttempts cs w₀) P) ∧
    (∀ c : Config, place? c.statePath = place? S → ∀ p f,
      (c.run (history cs w₀)).result = .error (.halt (.failed p f)) →
      ∃ a, (c.attempts (history cs w₀)).getLast? = some a ∧ a.phase = p ∧
        Progress.load (c.run (history cs w₀)).files c.statePath =
          .ok (a.start.progress.invalidateFrom p)) ∧
    (∀ (c : Config) (w : Workspace) p st path,
      (c.run w).result = .error (.halt (.missingOutput p st path)) → (c.run w).files = w) := by
  have hfile : FileVouched S (historyAttempts cs w₀) (history cs w₀) := by
    have h := history_vouched cs hS w₀ [] fun c text hc _ => by rw [h₀] at hc; cases hc
    simpa using h
  refine ⟨fun P hl => hfile.load rfl hl, ?failed, ?missing⟩
  case failed =>
    intro c hc p f h
    unfold Config.run Config.runWith at h ⊢
    unfold Config.attempts
    cases hl : Progress.load (history cs w₀) c.statePath with
    | error e => rw [hl] at h; cases h
    | ok P =>
      rw [hl] at h
      dsimp only at h ⊢
      have hP := (hfile.load hc hl).1
      split at h
      · cases h
      · next s stop hrun =>
        simp only [Except.error.injEq] at h
        subst h
        have := runPhases_failed c Phase.all ⟨history cs w₀, P, none, []⟩ p f hP (by rw [hrun])
        rw [hrun] at this
        exact this
  case missing =>
    intro c w p st path h
    unfold Config.run Config.runWith at h ⊢
    cases hl : Progress.load w c.statePath with
    | error e => rfl
    | ok P =>
      rw [hl] at h
      dsimp only at h ⊢
      split at h
      · cases h
      · next s stop hrun =>
        simp only [Except.error.injEq] at h
        subst h
        have := runPhases_missing c Phase.all ⟨w, P, none, []⟩ (by decide) p st path
          (by rw [hrun])
        rw [hrun] at this
        exact this

/-- The configurations that settings naming only the input, the output and the temporary
directory give, as the command line passes them on: every other setting takes its default. The
settings pass their checks, so there is exactly one. -/
def Config.fromPaths (input output temp : String) : List Config :=
  (Config.validate [("input_path", .text input), ("output_path", .text output),
    ("temp_dir", .text temp)]).toOption.toList

/-- A working directory holding an empty preference file. -/
def emptyPreferences : Workspace := Workspace.empty.writeText (.ofString "prefs.csv") ""

/-- A working directory holding three ratings by two users. -/
def threeRatings : Workspace :=
  Workspace.empty.writeText (.ofString "prefs.csv") "1,10,1\n2,10,1\n2,11,1\n"

/-- Two runs over three ratings whose temporary directories are written differently but reach
one place: the state file of both is `tmp/pipeline_state.json`. -/
def twoRunsOneTemp : List Config :=
  Config.fromPaths "prefs.csv" "a.txt" "tmp" ++ Config.fromPaths "prefs.csv" "b.txt" "./x/../tmp/"

/-- Two runs of three ratings that name one temporary directory two ways. -/
theorem markers_never_overstate_two_runs :
    (∀ c ∈ twoRunsOneTemp, place? c.statePath = place? (.ofString "tmp/pipeline_state.json")) ∧
    threeRatings.fileAtPath? (.ofString "tmp/pipeline_state.json") = none ∧
    ((∀ P, Progress.load (history twoRunsOneTemp threeRatings) (.ofString "tmp/pipeline_state.json") =
        .ok P → Vouched (historyAttempts twoRunsOneTemp threeRatings) P) ∧
      (∀ c : Config, place? c.statePath = place? (.ofString "tmp/pipeline_state.json") → ∀ p f,
        (c.run (history twoRunsOneTemp threeRatings)).result = .error (.halt (.failed p f)) →
        ∃ a, (c.attempts (history twoRunsOneTemp threeRatings)).getLast? = some a ∧
          a.phase = p ∧ Progress.load (c.run (history twoRunsOneTemp threeRatings)).files
            c.statePath = .ok (a.start.progress.invalidateFrom p)) ∧
      (∀ (c : Config) (w : Workspace) p st path,
        (c.run w).result = .error (.halt (.missingOutput p st path)) → (c.run w).files = w)) :=
  ⟨by decide +kernel, by decide +kernel,
    markers_never_overstate _ _ _ (by decide +kernel) (by decide +kernel)⟩

/-- A marker outlives a later start of its phase that never got past saving its dropped
markers. The first run writes its recommendations inside a directory named as the state file's
staging file, so it cannot save its last marker, and the next run cannot save at all: it starts
phase 0 and stops, and the state file still marks phases 0 to 3. -/
theorem marker_outlives_unsaved_start :
    ((historyAttempts (Config.fromPaths "prefs.csv" "tmp/pipeline_state.json.tmp/o.txt" "tmp" ++
        Config.fromPaths "prefs.csv" "out.txt" "tmp") emptyPreferences).map
        fun a => (a.phase, a.result.2.isNone)) =
      [(.itemIndex, true), (.userVectors, true), (.cooccurrence, true), (.partialMultiply, true),
        (.aggregate, false), (.itemIndex, false)] ∧
    ((Progress.load (history (Config.fromPaths "prefs.csv" "tmp/pipeline_state.json.tmp/o.txt"
        "tmp" ++ Config.fromPaths "prefs.csv" "out.txt" "tmp") emptyPreferences)
      ((PathName.ofString "tmp").join "pipeline_state.json")).toOption.map
        fun P => P.marks.keys) = some [0, 1, 2, 3] := by
  decide +kernel

end ItemRecommender
