import Mathlib
import ItemRecommender.Proofs.Config.Fingerprint
import ItemRecommender.Proofs.Run.Attempts
import ItemRecommender.Proofs.Recommender.RankedLines
/-! # A fresh run

    A run from phase 0 to phase 4, whose temporary directory is there and empty and whose output
    goes into a directory that is there, computes the five stages one after the other
    (`runStages`) on what it reads, and writes their recommendations at the output path.

    Until its last phase, its working directory only gains files directly inside the temporary
    directory (`Grown`): the state file and the phases' datasets, each written through a staging
    file that the move takes away again. So the preference input and the users file read as they
    did at the start, and the dataset of every phase is still there for the phases after it. The
    last phase writes into the output's directory, and its last save writes only the state file.

    One lemma per kind of phase (`Ends.step` for a phase that writes a dataset, `ends_aggregate`
    for the last) says how the run goes on from a phase, given what its stage gives. Chained
    over the five phases they give the run (`runPhases_fresh`): with recommendations from the
    stages it completes, with their text at the output path when it saves its last marker;
    without, it stops. Over the rationals the text is that of the specification's
    recommendations (`runWith_fresh_recommendations`); over any number type that ranks like
    doubles, the output file holds ranked lines (`runWith_fresh_lines_ranked`). -/

namespace ItemRecommender

namespace PathName

@[simp] theorem parent_join (p : PathName) (x : String) : (p.join x).parent = p := by
  simp [join, parent]

@[simp] theorem name?_join (p : PathName) (x : String) : (p.join x).name? = some x := by
  simp [join, name?]

/-- A path is its directory joined with its last component. -/
theorem parent_join_name {p : PathName} {x : String} (h : p.name? = some x) :
    p.parent.join x = p := by
  obtain ⟨root, parts⟩ := p
  simp only [join, parent, mk.injEq, true_and]
  exact List.dropLast_append_getLast? _ h

end PathName

namespace Workspace

variable {α : Type} {T : List String} {w₀ w : Workspace α}

/-- Nothing lies below the location `T`: no file, and no directory but `T` itself. -/
def VacantBelow (T : List String) (w : Workspace α) : Prop :=
  ∀ l ∈ w.files.map Prod.fst ++ w.dirs, T <+: l → l = T

/-- `w` is `w₀` with files added directly inside the directory `T`: the files of `w₀` first, in
their order, then the added ones, and the directories of `w₀`. -/
def Grown (T : List String) (w₀ w : Workspace α) : Prop :=
  ∃ extra : List (List String × Content α), (∀ f ∈ extra, ∃ x, f.1 = T ++ [x]) ∧
    w = ⟨w₀.files ++ extra, w₀.dirs⟩

/-- `w'` holds the files of `w` directly inside `T`, but under the names in `names`. -/
def SameInside (T names : List String) (w w' : Workspace α) : Prop :=
  ∀ z, z ∉ names → w'.fileAt? (T ++ [z]) = w.fileAt? (T ++ [z])

/-- What two steps keep inside `T` both keep, but under the names of either. -/
theorem SameInside.trans {names names' : List String} {w₁ w₂ w₃ : Workspace α}
    (h₁ : SameInside T names w₁ w₂) (h₂ : SameInside T names' w₂ w₃) :
    SameInside T (names ++ names') w₁ w₃ := fun z hz =>
  (h₂ z fun h => hz (List.mem_append_right _ h)).trans (h₁ z fun h => hz (List.mem_append_left _ h))

/-! ## Below an empty directory -/

/-- No file of the start lies directly inside an empty `T`. -/
theorem VacantBelow.not_inside (hE : VacantBelow T w₀) (x : String) :
    ∀ f ∈ w₀.files, f.1 ≠ T ++ [x] := by
  intro f hf h
  have := hE f.1 (List.mem_append_left _ (List.mem_map_of_mem hf)) (h ▸ List.prefix_append T [x])
  rw [h] at this
  simp at this

theorem VacantBelow.ne_inside {l : List String} {c : Content α} (hE : VacantBelow T w₀)
    (h : w₀.fileAt? l = some c) (x : String) : l ≠ T ++ [x] := by
  obtain ⟨f, hf, rfl⟩ := exists_mem_files_of_fileAt? h
  exact hE.not_inside x f hf

/-- An empty directory lists no files. -/
theorem VacantBelow.filesIn_eq_nil (hE : VacantBelow T w₀) : w₀.filesIn T = [] := by
  have hnone : ∀ f ∈ w₀.files, ¬ (f.1.length = T.length + 1 ∧ f.1.take T.length = T) := by
    rintro f hf ⟨hlen, htake⟩
    have := hE f.1 (List.mem_append_left _ (List.mem_map_of_mem hf)) (htake ▸ List.take_prefix _ _)
    rw [this] at hlen
    omega
  simp only [filesIn]
  rw [List.filterMap_eq_nil_iff.2 fun f hf => if_neg (hnone f hf), List.mergeSort_nil]

/-! ## Growing inside it -/

/-- A working directory is grown from itself. -/
theorem Grown.refl (T : List String) (w : Workspace α) : Grown T w w :=
  ⟨[], by simp, by cases w; simp⟩

/-- Putting a file directly inside `T` keeps a working directory grown, when the start has no
file there. -/
theorem Grown.put (hG : Grown T w₀ w) {x : String} (hfree : ∀ f ∈ w₀.files, f.1 ≠ T ++ [x])
    (c : Content α) : Grown T w₀ (w.put (T ++ [x]) c) := by
  obtain ⟨extra, hextra, rfl⟩ := hG
  unfold Workspace.put
  split_ifs
  · -- the file is replaced where it is, among the added ones
    refine ⟨extra.map fun f => if f.1 = T ++ [x] then (T ++ [x], c) else f, ?_, ?_⟩
    · intro f hf
      obtain ⟨g, hg, rfl⟩ := List.mem_map.1 hf
      split_ifs
      · exact ⟨x, rfl⟩
      · exact hextra g hg
    · have hkeep : w₀.files.map (fun f => if f.1 = T ++ [x] then (T ++ [x], c) else f) =
          w₀.files := by
        conv_rhs => rw [← List.map_id w₀.files]
        exact List.map_congr_left fun f hf => if_neg (hfree f hf)
      simp only [List.map_append, hkeep]
  · refine ⟨extra ++ [(T ++ [x], c)], fun f hf => ?_, by simp⟩
    rcases List.mem_append.1 hf with hf | hf
    · exact hextra f hf
    · exact ⟨x, by simp_all⟩

/-- Removing a file directly inside `T` keeps a working directory grown, when the start has no
file there. -/
theorem Grown.unput (hG : Grown T w₀ w) {x : String} (hfree : ∀ f ∈ w₀.files, f.1 ≠ T ++ [x]) :
    Grown T w₀ (w.unput (T ++ [x])) := by
  obtain ⟨extra, hextra, rfl⟩ := hG
  refine ⟨extra.filter fun f => f.1 ≠ T ++ [x], fun f hf => hextra f (List.mem_of_mem_filter hf),
    ?_⟩
  have hkeep : w₀.files.filter (fun f => f.1 ≠ T ++ [x]) = w₀.files :=
    List.filter_eq_self.2 fun f hf => by simpa using hfree f hf
  simp only [Workspace.unput, List.filter_append, hkeep]

/-- Away from the places directly inside `T`, a grown working directory holds the files of the
start. -/
theorem Grown.fileAt? (hG : Grown T w₀ w) {l : List String} (hl : ∀ x, l ≠ T ++ [x]) :
    w.fileAt? l = w₀.fileAt? l := by
  obtain ⟨extra, hextra, rfl⟩ := hG
  have hnone : extra.find? (fun f => decide (f.1 = l)) = none := by
    refine List.find?_eq_none.2 fun f hf h => ?_
    obtain ⟨x, hx⟩ := hextra f hf
    exact hl x ((of_decide_eq_true h).symm.trans hx)
  simp only [Workspace.fileAt?, List.find?_append, hnone, Option.or_none]

/-- Away from the locations above `T`, a grown working directory has the directories of the
start. -/
theorem Grown.isDir (hG : Grown T w₀ w) {l : List String} (hl : ¬ l <+: T) :
    w.isDir l = w₀.isDir l := by
  obtain ⟨extra, hextra, rfl⟩ := hG
  have hnone : extra.any (fun f => decide (l.length < f.1.length ∧ f.1.take l.length = l)) =
      false := by
    refine List.any_eq_false.2 fun f hf h => ?_
    obtain ⟨hlen, htake⟩ := of_decide_eq_true h
    obtain ⟨x, hx⟩ := hextra f hf
    rw [hx, List.length_append, List.length_singleton] at hlen
    rw [hx, List.take_append_of_le_length (by omega)] at htake
    exact hl (htake ▸ List.take_prefix _ _)
  simp only [Workspace.isDir, List.any_append, hnone, Bool.or_false]

/-- No location directly inside `T` is a directory of a grown working directory. -/
theorem Grown.isDir_inside (hE : VacantBelow T w₀) (hG : Grown T w₀ w) (x : String) :
    w.isDir (T ++ [x]) = false := by
  obtain ⟨extra, hextra, rfl⟩ := hG
  rw [Bool.eq_false_iff, ne_eq, isDir_iff]
  rintro (h | h | ⟨f, hf, hlen, htake⟩)
  · simp at h
  · have := hE _ (List.mem_append_right _ h) (List.prefix_append T [x])
    simp at this
  · rcases List.mem_append.1 hf with hf | hf
    · -- a file of the start below `T` would be `T` itself, which is shorter
      have hpre : T <+: f.1 := (List.prefix_append T [x]).trans (htake ▸ List.take_prefix _ _)
      have hT := hE f.1 (List.mem_append_left _ (List.mem_map_of_mem hf)) hpre
      rw [hT] at hlen
      simp at hlen
    · obtain ⟨y, hy⟩ := hextra f hf
      rw [hy] at hlen
      simp at hlen

/-- No directory of the start lies directly inside an empty `T`. -/
theorem VacantBelow.ne_inside_of_isDir (hE : VacantBelow T w₀) {l : List String}
    (h : w₀.isDir l = true) (x : String) : l ≠ T ++ [x] := by
  rintro rfl
  rw [(Grown.refl T w₀).isDir_inside hE x] at h
  cases h

/-- A grown working directory keeps every directory of the start. -/
theorem Grown.keepsDirs (hE : VacantBelow T w₀) (hG : Grown T w₀ w) : KeepsDirs w₀ w := by
  intro d hd
  rw [entryAt?_eq_directory] at hd ⊢
  refine ⟨(hG.fileAt? (hE.ne_inside_of_isDir hd.2)).trans hd.1, ?_⟩
  obtain ⟨extra, -, rfl⟩ := hG
  have h := hd.2
  rw [isDir_iff] at h ⊢
  rcases h with h | h | ⟨f, hf, h⟩
  · exact .inl h
  · exact .inr (.inl h)
  · exact .inr (.inr ⟨f, List.mem_append_left _ hf, h⟩)

/-- A location that is no directory at the start is none in a grown working directory, when
every location above `T` is one. -/
theorem Grown.not_directory (hE : VacantBelow T w₀) (hG : Grown T w₀ w)
    (hT : ∀ l, l <+: T → l ≠ [] → w₀.entryAt? l = some .directory) {l : List String}
    (hl : w₀.entryAt? l ≠ some .directory) : w.entryAt? l ≠ some .directory := by
  by_cases hin : ∃ x, l = T ++ [x]
  · obtain ⟨x, rfl⟩ := hin
    exact entryAt?_ne_directory (hG.isDir_inside hE x)
  · simp only [not_exists] at hin
    rw [ne_eq, entryAt?_eq_directory, hG.fileAt? hin]
    rintro ⟨hfile, hdir⟩
    refine hl ((entryAt?_eq_directory l).2 ⟨hfile, ?_⟩)
    by_cases hpre : l <+: T
    · rcases eq_or_ne l [] with rfl | hne
      · simp [Workspace.isDir]
      · exact ((entryAt?_eq_directory l).1 (hT l hpre hne)).2
    · rwa [← hG.isDir hpre]

/-- Away from `T`, a grown working directory lists the files of the start in a directory. -/
theorem Grown.filesIn (hG : Grown T w₀ w) {loc : List String} (hloc : loc ≠ T) :
    w.filesIn loc = w₀.filesIn loc := by
  obtain ⟨extra, hextra, rfl⟩ := hG
  have hnone : ∀ f ∈ extra, ¬ (f.1.length = loc.length + 1 ∧ f.1.take loc.length = loc) := by
    rintro f hf ⟨hlen, htake⟩
    obtain ⟨x, hx⟩ := hextra f hf
    rw [hx, List.length_append, List.length_singleton] at hlen
    rw [hx, List.take_append_of_le_length (by omega), List.take_of_length_le (by omega)] at htake
    exact hloc htake.symm
  simp only [filesIn, List.filterMap_append]
  rw [List.filterMap_eq_nil_iff.2 fun f hf => if_neg (hnone f hf), List.append_nil]

/-! ## Reading and writing in it -/

/-- The input of preferences that reads at the start reads the same in a grown working
directory. -/
theorem Grown.inputFiles (hE : VacantBelow T w₀) (hG : Grown T w₀ w) {p : PathName}
    {files : List (String × Content α)} (h : inputFiles w₀ p = .ok files) :
    inputFiles w p = .ok files := by
  have hk := hG.keepsDirs hE
  unfold ItemRecommender.inputFiles at h ⊢
  cases hloc : w₀.locate p with
  | none => simp [hloc] at h
  | some loc =>
    have hloc' : w.locate p = some loc :=
      locate_eq_some.2 (reachPath_of_keepsDirs hk (locate_eq_some.1 hloc))
    rw [hloc] at h
    rw [hloc']
    dsimp only at h ⊢
    cases hf : w₀.fileAt? loc with
    | some c =>
      rw [hf] at h
      rwa [hG.fileAt? (hE.ne_inside hf), hf]
    | none =>
      -- the input is a directory of the start with files, so neither `T` nor inside it
      rw [hf] at h
      have hdir : w₀.isDir loc = true := by
        cases hd : w₀.isDir loc
        · simp [hd] at h
        · rfl
      have hne : loc ≠ T := by
        rintro rfl
        simp [hdir, hE.filesIn_eq_nil] at h
      have hdir' : w.isDir loc = true :=
        ((entryAt?_eq_directory loc).1 (hk loc ((entryAt?_eq_directory loc).2 ⟨hf, hdir⟩))).2
      rwa [hG.fileAt? (hE.ne_inside_of_isDir hdir), hf, hdir'.trans hdir.symm, hG.filesIn hne]

/-- Preferences that read at the start read the same in a grown working directory. -/
theorem Grown.readPreferences (hE : VacantBelow T w₀) (hG : Grown T w₀ w) {p : PathName}
    {boolean : Bool} {prefs : List (Preference Float)}
    (h : readPreferences w₀ p boolean = .ok prefs) : readPreferences w p boolean = .ok prefs := by
  unfold ItemRecommender.readPreferences at h ⊢
  obtain ⟨files, hfiles, -⟩ := (bind_eq_ok _ _ _).1 h
  rwa [hG.inputFiles hE hfiles, ← hfiles]

/-- A users file that reads at the start reads the same in a grown working directory. -/
theorem Grown.readUserIds (hE : VacantBelow T w₀) (hG : Grown T w₀ w) {u : Option PathName}
    {users : Option (List Int)} (h : readUserIds w₀ u = .ok users) : readUserIds w u = .ok users := by
  cases u with
  | none => simpa [ItemRecommender.readUserIds] using h
  | some p =>
    unfold ItemRecommender.readUserIds at h ⊢
    dsimp only at h ⊢
    cases hopen : w₀.openRead p with
    | error e =>
      cases hex : w₀.exists? p <;> simp [hex, hopen] at h
    | ok content =>
      obtain ⟨loc, hreach, hfile⟩ := openRead_ok hopen
      obtain ⟨hex', hopen'⟩ := openRead_of_keepsDirs (hG.keepsDirs hE) hopen fun l hl => by
        rw [reachPath_place hreach, Option.some.injEq] at hl
        rw [← hl]
        exact hG.fileAt? (hE.ne_inside hfile)
      rw [(openRead_of_reach hreach hfile).1, hopen] at h
      rwa [hex', hopen']

/-- A write under a plain name into a directory that is there goes through, leaving no staging
file. -/
theorem writeStaged_join {q : PathName} {d : List String} {x : String} {c : Content α}
    (hd : w.reachPath q = .ok d) (hdir : w.entryAt? d = some .directory) (hup : x ≠ "..")
    (hdot : x ≠ ".") (hnul : x.toList.contains '\x00' = false)
    (hthere : w.entryAt? (d ++ [x]) ≠ some .directory)
    (hstaging : w.entryAt? (d ++ [x ++ ".tmp"]) ≠ some .directory) :
    w.writeStaged (q.join x) c =
      (((w.put (d ++ [x ++ ".tmp"]) c).unput (d ++ [x ++ ".tmp"])).put (d ++ [x]) c, none) :=
  writeStaged_eq (by simpa using hd) hdir (PathName.name?_join q x) hup hdot hnul hthere hstaging

/-- A write directly inside `T`, under a plain name, goes through in a grown working directory:
the content is there, no other file but its staging file changes, and the working directory is
still grown. -/
theorem Grown.writeStaged_inside (hE : VacantBelow T w₀) (hG : Grown T w₀ w) {q : PathName}
    (hT : w₀.reachPath q = .ok T) (hTdir : w₀.entryAt? T = some .directory) {x : String}
    (hup : x ≠ "..") (hdot : x ≠ ".") (hnul : x.toList.contains '\x00' = false) (c : Content α) :
    ∃ w', w.writeStaged (q.join x) c = (w', none) ∧ Grown T w₀ w' ∧
      w'.fileAt? (T ++ [x]) = some c ∧
      ∀ l, l ≠ T ++ [x] → l ≠ T ++ [x ++ ".tmp"] → w'.fileAt? l = w.fileAt? l := by
  have hk := hG.keepsDirs hE
  rw [writeStaged_join (reachPath_of_keepsDirs hk hT) (hk T hTdir) hup hdot hnul
    (entryAt?_ne_directory (hG.isDir_inside hE x))
    (entryAt?_ne_directory (hG.isDir_inside hE (x ++ ".tmp")))]
  refine ⟨_, rfl, ((hG.put (hE.not_inside _) c).unput (hE.not_inside _)).put (hE.not_inside x) c,
    by simp, fun l hx htmp => by simp [hx, htmp]⟩

/-- The names a write of `x` touches: `x` and its staging name. -/
def writeNames (x : String) : List String := [x, x ++ ".tmp"]

/-- A write of `x` keeps what lies inside `T` under the other names. -/
theorem sameInside_of_write {w w' : Workspace α} {x : String}
    (h : ∀ l, l ≠ T ++ [x] → l ≠ T ++ [x ++ ".tmp"] → w'.fileAt? l = w.fileAt? l) :
    SameInside T (writeNames x) w w' := fun z hz =>
  h _ (by simp_all [writeNames]) (by simp_all [writeNames])

/-! ## Paths that read -/

theorem hasNul_of_locate {p : PathName} {l : List String} (h : w.locate p = some l) :
    p.hasNul = false := by
  unfold locate reachPath at h
  split_ifs at h with hn
  · simp [throw, throwThe, MonadExceptOf.throw, Except.toOption] at h
  · simpa using hn

/-- A preference input that reads holds no NUL. -/
theorem hasNul_of_readPreferences {p : PathName} {boolean : Bool} {prefs : List (Preference Float)}
    (h : readPreferences w p boolean = .ok prefs) : p.hasNul = false := by
  unfold ItemRecommender.readPreferences ItemRecommender.inputFiles at h
  cases hloc : w.locate p with
  | none => simp [hloc] at h
  | some l => exact hasNul_of_locate hloc

/-- A users file that reads holds no NUL. -/
theorem hasNul_of_readUserIds {p : PathName} {users : Option (List Int)}
    (h : readUserIds w (some p) = .ok users) : p.hasNul = false := by
  unfold ItemRecommender.readUserIds at h
  cases hloc : w.locate p with
  | none => simp [exists?, hloc] at h
  | some l => exact hasNul_of_locate hloc

end Workspace

open Workspace

/-- A configuration whose paths hold no NUL has a fingerprint for every phase. -/
theorem Config.fingerprint_ok {c : Config} (hin : c.inputPath.hasNul = false)
    (hu : ∀ u, c.usersFile = some u → u.hasNul = false) (p : Phase) :
    ∃ f, c.fingerprint p = .ok f := by
  have hres : ∀ q : PathName, q.hasNul = false → resolvedText q = .ok q.resolve.render :=
    fun q hq => by simp [resolvedText, hq, pure, Except.pure]
  obtain ⟨users, husers⟩ : ∃ users, c.usersTextUpTo p = .ok users := by
    unfold usersTextUpTo usersText
    split_ifs
    · cases h : c.usersFile with
      | none => exact ⟨"", rfl⟩
      | some u => exact ⟨_, hres u (hu u h)⟩
    · exact ⟨"", rfl⟩
  exact ⟨_, fingerprint_eq_ok.2 ⟨_, users, hres _ hin, husers, rfl⟩⟩

/-- A dataset is written into the temporary directory under its name. -/
theorem Config.outputOf_dataset {c : Config} {q : Phase} {x : String} (hx : q.dataset? = some x) :
    c.outputOf q = c.tempDir.join x := by
  simp [outputOf, hx, datasetPath]

/-- The names of the datasets are plain, and none is a name of the state file. -/
theorem Phase.dataset?_plain {q : Phase} {x : String} (hx : q.dataset? = some x) :
    x ≠ ".." ∧ x ≠ "." ∧ x.toList.contains '\x00' = false ∧ x ∉ writeNames "pipeline_state.json" := by
  cases q <;> simp only [Phase.dataset?, Option.some.injEq, reduceCtorEq] at hx <;> subst hx <;>
    decide

/-- With no marker, no phase is complete. -/
theorem Progress.isComplete_fresh (q : Phase) (fp : String) : fresh.isComplete q fp = false := by
  simp [isComplete, fresh]

/-- Once a phase is marked, with the later markers dropped, no later phase is complete. -/
theorem Progress.isComplete_after {P : Progress} {p q : Phase} (h : p < q) (f f' : String) :
    ((P.invalidateFrom p).mark p f).isComplete q f' = false := by
  have hlt : p.toNat < q.toNat := h
  have hne : (q.toNat : Int) ≠ p.toNat := by omega
  have hnlt : ¬ (q.toNat : Int) < p.toNat := by omega
  simp [isComplete, mark, invalidateFrom, hne, hnlt]

/-! ## Where a fresh run starts -/

/-- A fresh run: from phase 0 to phase 4, with its temporary directory at `T`, there and empty,
and its output at `O ++ [name]`: in a directory that is there, under a plain name, with no
directory at it or at its staging file. -/
structure Config.FreshStart {α : Type} (c : Config) (w : Workspace α) (T O : List String)
    (name : String) : Prop where
  start : c.startPhase = .itemIndex
  stop : c.endPhase = .aggregate
  temp : w.reachPath c.tempDir = .ok T
  temp_dir : w.entryAt? T = some .directory
  temp_empty : VacantBelow T w
  output : w.reachPath c.outputPath.parent = .ok O
  output_dir : w.entryAt? O = some .directory
  output_name : c.outputPath.name? = some name
  name_up : name ≠ ".."
  name_dot : name ≠ "."
  name_nul : name.toList.contains '\x00' = false
  not_dir : w.entryAt? (O ++ [name]) ≠ some .directory
  staging_not_dir : w.entryAt? (O ++ [name ++ ".tmp"]) ≠ some .directory

namespace Config.FreshStart

variable {α : Type} {c : Config} {w₀ w : Workspace α} {T O : List String} {name : String}

theorem above_temp (hF : c.FreshStart w₀ T O name) :
    ∀ l, l <+: T → l ≠ [] → w₀.entryAt? l = some .directory :=
  prefix_dir_of_reachPath hF.temp hF.temp_dir

theorem above_output (hF : c.FreshStart w₀ T O name) :
    ∀ l, l <+: O → l ≠ [] → w₀.entryAt? l = some .directory :=
  prefix_dir_of_reachPath hF.output hF.output_dir

/-- The output path names the place `O ++ [name]`. -/
theorem place_output (hF : c.FreshStart w₀ T O name) : place? c.outputPath = some (O ++ [name]) := by
  have h := reachPath_join hF.name_up hF.name_nul hF.output hF.output_dir
  rw [PathName.parent_join_name hF.output_name] at h
  exact reachPath_place h

/-- A fresh run finds no state file, so it starts with no marker. -/
theorem load_fresh (hF : c.FreshStart w₀ T O name) :
    Progress.load w₀ c.statePath = .ok Progress.fresh := by
  have hreach : w₀.reachPath c.statePath = .ok (T ++ ["pipeline_state.json"]) :=
    reachPath_join (by simp) (by decide) hF.temp hF.temp_dir
  have hnone : w₀.entryAt? (T ++ ["pipeline_state.json"]) = none := by
    cases hf : w₀.fileAt? (T ++ ["pipeline_state.json"]) with
    | none => simp [entryAt?, hf, (Grown.refl T w₀).isDir_inside hF.temp_empty]
    | some c => exact absurd rfl (hF.temp_empty.ne_inside hf _)
  simp [Progress.load, exists?, locate, hreach, Except.toOption, hnone, pure, Except.pure]

/-- A file directly inside the temporary directory is reached in a grown working directory. -/
theorem reach_temp (hF : c.FreshStart w₀ T O name) (hG : Grown T w₀ w) {x : String}
    (hup : x ≠ "..") (hnul : x.toList.contains '\x00' = false) :
    w.reachPath (c.tempDir.join x) = .ok (T ++ [x]) :=
  have hk := hG.keepsDirs hF.temp_empty
  reachPath_join hup hnul (reachPath_of_keepsDirs hk hF.temp) (hk T hF.temp_dir)

/-- The dataset of a phase, written directly inside the temporary directory, reads back as its
records. -/
theorem readDataset_temp (hF : c.FreshStart w₀ T O name) (hG : Grown T w₀ w) {q : Phase}
    {x : String} (hx : q.dataset? = some x) {β : Type} {pick : Dataset α → Option β}
    {d : Dataset α} {b : β} (hfile : w.fileAt? (T ++ [x]) = some (.dataset d))
    (hpick : pick d = some b) (hd : ∀ h v, d ≠ .objects h v) :
    readDataset pick w (c.outputOf q) = .ok (.records b) := by
  obtain ⟨hup, -, hnul, -⟩ := Phase.dataset?_plain hx
  obtain ⟨hex, hopen⟩ := openRead_of_reach (hF.reach_temp hG hup hnul) hfile
  rw [Config.outputOf_dataset hx]
  cases d with
  | objects h v => exact absurd rfl (hd h v)
  | _ => simp [readDataset, hex, hopen, hpick, bind, Except.bind, pure, Except.pure]

/-- The output, written in a grown working directory, goes into its directory. -/
theorem writeStaged_output (hF : c.FreshStart w₀ T O name) (hG : Grown T w₀ w) (content : Content α) :
    w.writeStaged c.outputPath content =
      (((w.put (O ++ [name ++ ".tmp"]) content).unput (O ++ [name ++ ".tmp"])).put (O ++ [name])
        content, none) := by
  have hk := hG.keepsDirs hF.temp_empty
  exact writeStaged_eq (reachPath_of_keepsDirs hk hF.output) (hk O hF.output_dir) hF.output_name
    hF.name_up hF.name_dot hF.name_nul (hG.not_directory hF.temp_empty hF.above_temp hF.not_dir)
    (hG.not_directory hF.temp_empty hF.above_temp hF.staging_not_dir)

/-- With the output written, still no location directly inside the temporary directory is a
directory: one above the output was one at the start. -/
theorem isDir_inside_output (hF : c.FreshStart w₀ T O name) (hG : Grown T w₀ w)
    (content : Content α) (y : String) :
    (((w.put (O ++ [name ++ ".tmp"]) content).unput (O ++ [name ++ ".tmp"])).put (O ++ [name])
      content).isDir (T ++ [y]) = false := by
  have habove : ∀ z, T ++ [y] <+: O ++ [z] → T ++ [y] ≠ O ++ [z] → False := by
    intro z hpre hne
    have hO : T ++ [y] <+: O := (List.prefix_concat_iff.1 hpre).resolve_left hne
    exact entryAt?_ne_directory ((Grown.refl T w₀).isDir_inside hF.temp_empty y)
      (hF.above_output _ hO (by simp))
  rw [Bool.eq_false_iff]
  intro h
  rcases isDir_of_isDir_put h with h | ⟨hpre, hne⟩
  · rcases isDir_of_isDir_put (isDir_of_isDir_unput h) with h | ⟨hpre, hne⟩
    · rw [hG.isDir_inside hF.temp_empty y] at h
      cases h
    · exact habove _ hpre hne
  · exact habove _ hpre hne

end Config.FreshStart

/-! ## The phases of a fresh run -/

namespace RunState

variable {α : Type} {codec : Codec α} {c : Config} {w₀ : Workspace α} {T O : List String}
  {name : String}

/-- Saving in a grown working directory writes the state file directly inside the temporary
directory, and goes through. -/
theorem save_grown (hF : c.FreshStart w₀ T O name) (s : RunState α) (hG : Grown T w₀ s.files) :
    ∃ W, s.save c = ({ s with files := W }, none) ∧ Grown T w₀ W ∧
      SameInside T (writeNames "pipeline_state.json") s.files W := by
  obtain ⟨W, hw, hG', -, hframe⟩ := hG.writeStaged_inside hF.temp_empty hF.temp hF.temp_dir
    (x := "pipeline_state.json") (by simp) (by simp) (by decide)
    (.bytes s.progress.render.toUTF8.toList)
  refine ⟨W, ?_, hG', sameInside_of_write hframe⟩
  simp only [save, Progress.write, Config.statePath, hw]

/-- Storing a dataset in a grown working directory writes it directly inside the temporary
directory, and goes through. -/
theorem store_grown (hF : c.FreshStart w₀ T O name) (s : RunState α) (hG : Grown T w₀ s.files)
    {q : Phase} {x : String} (hx : q.dataset? = some x) (content : Content α) :
    ∃ W, s.store c q content = ({ s with files := W }, none) ∧ Grown T w₀ W ∧
      W.fileAt? (T ++ [x]) = some content ∧ SameInside T (writeNames x) s.files W := by
  obtain ⟨hup, hdot, hnul, -⟩ := Phase.dataset?_plain hx
  obtain ⟨W, hw, hG', hfile, hframe⟩ :=
    hG.writeStaged_inside hF.temp_empty hF.temp hF.temp_dir hup hdot hnul content
  refine ⟨W, ?_, hG', hfile, sameInside_of_write hframe⟩
  simp only [store_eq, Config.outputOf_dataset hx, hw]

/-- Saving once the output is written goes through: it writes the state file directly inside the
temporary directory. -/
theorem save_output_written (hF : c.FreshStart w₀ T O name) {w : Workspace α}
    (hG : Grown T w₀ w) {content : Content α} (s : RunState α)
    (hs : s.files = ((w.put (O ++ [name ++ ".tmp"]) content).unput (O ++ [name ++ ".tmp"])).put
      (O ++ [name]) content) :
    ∃ W, s.save c = ({ s with files := W }, none) ∧
      s.progress.write s.files c.statePath = (W, none) ∧
      ∀ l, l ≠ T ++ ["pipeline_state.json"] → l ≠ T ++ ["pipeline_state.json.tmp"] →
        W.fileAt? l = s.files.fileAt? l := by
  have hk : KeepsDirs w₀ s.files := (hG.keepsDirs hF.temp_empty).trans
    (hs ▸ writeStaged_keepsDirs (hF.writeStaged_output hG content))
  have hnot : ∀ y, s.files.entryAt? (T ++ [y]) ≠ some .directory := fun y =>
    entryAt?_ne_directory (hs ▸ hF.isDir_inside_output hG content y)
  have hw : s.files.writeStaged (c.tempDir.join "pipeline_state.json")
      (.bytes s.progress.render.toUTF8.toList) = _ :=
    writeStaged_join (reachPath_of_keepsDirs hk hF.temp) (hk T hF.temp_dir) (by simp) (by simp)
      (by decide) (hnot _) (hnot _)
  refine ⟨_, ?_, hw, fun l h₁ h₂ => ?_⟩
  · simp only [save, Progress.write, Config.statePath, hw]
  · simp [h₁, h₂]

/-- Storing the output in a grown working directory writes it into the output's directory. -/
theorem store_output (hF : c.FreshStart w₀ T O name) (s : RunState α) (hG : Grown T w₀ s.files)
    (content : Content α) :
    ∃ W, s.store c .aggregate content = ({ s with files := W }, none) ∧
      W = ((s.files.put (O ++ [name ++ ".tmp"]) content).unput (O ++ [name ++ ".tmp"])).put
        (O ++ [name]) content :=
  ⟨_, by simp only [store_eq, show c.outputOf .aggregate = c.outputPath from rfl,
    hF.writeStaged_output hG], rfl⟩

variable [Scalar α] [Inhabited α]

/-- The preferences read by the first phase. -/
theorem produce_itemIndex {s : RunState α} {prefs : List (Preference Float)}
    (hnone : s.prefs = none) (hread : readPreferences s.files c.inputPath c.booleanData = .ok prefs) :
    s.produce codec c .itemIndex =
      (buildItemTable (prefs.map (Preference.map codec.ofDouble)) c.numSplits).map fun t =>
        (.dataset (.itemTable t), { s with prefs := some (prefs.map (Preference.map codec.ofDouble)) }) := by
  have hp : s.preferences codec c = .ok (prefs.map (Preference.map codec.ofDouble),
      { s with prefs := some (prefs.map (Preference.map codec.ofDouble)) }) := by
    simp [preferences, hnone, hread, bind, Except.bind, pure, Except.pure]
  simp only [produce, hp, bind, Except.bind]
  cases buildItemTable (prefs.map (Preference.map codec.ofDouble)) c.numSplits <;> rfl

/-- The vectors of the second phase, from the preferences kept and the item table. -/
theorem produce_userVectors {s : RunState α} {ps : List (Preference α)} {table : ItemTable}
    (hprefs : s.prefs = some ps)
    (hread : readDataset Dataset.table? s.files (c.outputOf .itemIndex) = .ok (.records table)) :
    s.produce codec c .userVectors =
      (buildUserVectors ps table c.numSplits).map fun vs => (.dataset (.userVectors vs), s) := by
  have hp : s.preferences codec c = .ok (ps, s) := by simp [preferences, hprefs, pure, Except.pure]
  simp only [produce, hread, hp, vectorsFrom, bind, Except.bind]
  cases buildUserVectors ps table c.numSplits <;> rfl

/-- The columns of the third phase, from the user vectors. -/
theorem produce_cooccurrence {s : RunState α} {vs : List (Int × UserVector α)}
    (hread : readDataset Dataset.vectors? s.files (c.outputOf .userVectors) = .ok (.records vs)) :
    s.produce codec c .cooccurrence =
      (buildCooccurrence vs c.numSplits).map fun cs => (.dataset (.columns cs), s) := by
  simp only [produce, hread, columnsFrom, bind, Except.bind]
  cases buildCooccurrence vs c.numSplits <;> rfl

/-- The joined columns of the fourth phase, from the users, columns and vectors. -/
theorem produce_partialMultiply {s : RunState α} {users : Option (List Int)}
    {cs : List (Int × Column α)} {vs : List (Int × UserVector α)}
    (husers : readUserIds s.files c.usersFile = .ok users)
    (hcols : readDataset Dataset.columns? s.files (c.outputOf .cooccurrence) = .ok (.records cs))
    (hvecs : readDataset Dataset.vectors? s.files (c.outputOf .userVectors) = .ok (.records vs)) :
    s.produce codec c .partialMultiply =
      (joinColumns cs vs c.maxPrefsPerUser users c.numSplits).map fun rs =>
        (.dataset (.joined rs), s) := by
  simp only [produce, husers, hcols, hvecs, joinedFrom, bind, Except.bind]
  cases joinColumns cs vs c.maxPrefsPerUser users c.numSplits <;> rfl

/-- The text of the last phase, from the item table and the joined columns. -/
theorem produce_aggregate {s : RunState α} {table : ItemTable} {rs : List (Int × RatedColumn α)}
    (htable : readDataset Dataset.table? s.files (c.outputOf .itemIndex) = .ok (.records table))
    (hjoined : readDataset Dataset.joined? s.files (c.outputOf .partialMultiply) = .ok (.records rs)) :
    s.produce codec c .aggregate =
      (aggregate rs table c.numRecommendations c.numSplits).map fun recs =>
        (.bytes (codec.text recs).toUTF8.toList, s) := by
  simp only [produce, htable, hjoined, textFrom, bind, Except.bind]
  cases aggregate rs table c.numRecommendations c.numSplits <;> rfl

/-- A phase run whose saves, work and write all go through. -/
theorem runPhase_of_ok {s s₁ s₂ s₃ s₄ : RunState α} {q : Phase} {fp : String} {content : Content α}
    (h₁ : (s.begin q).save c = (s₁, none)) (h₂ : s₁.produce codec c q = .ok (content, s₂))
    (h₃ : s₂.store c q content = (s₃, none))
    (h₄ : ({ s₃ with progress := s₃.progress.mark q fp } : RunState α).save c = (s₄, none)) :
    s.runPhase codec c q fp = (s₄, none) := by
  simp only [runPhase, h₁, work, h₂, h₃, h₄]

/-- A phase run whose work fails to produce stops the run. -/
theorem runPhase_of_error {s s₁ : RunState α} {q : Phase} {fp : String} {f : Failure}
    (h₁ : (s.begin q).save c = (s₁, none)) (h₂ : s₁.produce codec c q = .error f) :
    ∃ stop, s.runPhase codec c q fp = (s₁, some stop) := by
  simp only [runPhase, h₁, work, h₂]
  split <;> exact ⟨_, rfl⟩

end RunState

/-! ## The run -/

/-- What a fresh run over the phases `ps` from the state `s` ends with, when its stages give `r`:
with recommendations, the run completes, having written their text at `O ++ [name]` before its
last save, which changes no file but the state file and its staging file; without, it stops. -/
def Ends {α : Type} [Scalar α] [Inhabited α] (codec : Codec α) (c : Config) (T O : List String)
    (name : String) (ps : List Phase) (s : RunState α)
    (r : Except Failure (List (Int × List (Recommendation α)))) : Prop :=
  (∀ recs, r = .ok recs → ∃ (s' : RunState α) (W : Workspace α) (P : Progress),
    runPhases codec c ps s = (s', none) ∧
    W.fileAt? (O ++ [name]) = some (.bytes (codec.text recs).toUTF8.toList) ∧
    P.write W c.statePath = (s'.files, none) ∧
    ∀ l, l ≠ T ++ ["pipeline_state.json"] → l ≠ T ++ ["pipeline_state.json.tmp"] →
      s'.files.fileAt? l = W.fileAt? l) ∧
  (∀ e, r = .error e → ∃ s' stop, runPhases codec c ps s = (s', some stop))

section Run

variable {α : Type} [Scalar α] [Inhabited α] (codec : Codec α) {c : Config} {w₀ : Workspace α}
  {T O : List String} {name : String}

omit [Scalar α] [Inhabited α] in
/-- A fresh run attempts every phase it reaches that has no marker under its fingerprint. -/
theorem choice_fresh (hF : c.FreshStart w₀ T O name) {s : RunState α} {q : Phase} {fp : String}
    (hfp : c.fingerprint q = .ok fp) (hnew : s.progress.isComplete q fp = false) :
    c.choice q s = .attempt fp := by
  have hend : ¬ c.endPhase < q := by rw [hF.stop]; cases q <;> decide
  have hstart : ¬ q < c.startPhase := by rw [hF.start]; cases q <;> decide
  simp [Config.choice, hend, hstart, hfp, hnew]

/-- **A phase that writes a dataset, in a fresh run.** Given what its stage gives from the files
the phase finds, the phase saves its dropped markers, writes the stage's dataset directly inside
the temporary directory and saves its marker, and the run goes on from there; when the stage
fails, the run stops. -/
theorem Ends.step (hF : c.FreshStart w₀ T O name) {s : RunState α} (hG : Grown T w₀ s.files)
    {q : Phase} {x : String} (hx : q.dataset? = some x) {fp : String}
    (hfp : c.fingerprint q = .ok fp) (hnew : s.progress.isComplete q fp = false)
    {β : Type} {stage : Except Failure β} (out : β → Content α)
    (prefs : Option (List (Preference α)))
    (hprod : ∀ W, Grown T w₀ W → SameInside T (writeNames "pipeline_state.json") s.files W →
      ({ s.begin q with files := W } : RunState α).produce codec c q =
        stage.map fun v => (out v, { s.begin q with files := W, prefs := prefs }))
    {rest : List Phase} {later : β → Except Failure (List (Int × List (Recommendation α)))}
    (hlater : ∀ v W, stage = .ok v → Grown T w₀ W → W.fileAt? (T ++ [x]) = some (out v) →
      SameInside T (writeNames "pipeline_state.json" ++ writeNames x ++
        writeNames "pipeline_state.json") s.files W →
      Ends codec c T O name rest
        ⟨W, (s.progress.invalidateFrom q).mark q fp, prefs, s.events ++ [.started q]⟩ (later v)) :
    Ends codec c T O name (q :: rest) s (stage >>= later) := by
  obtain ⟨W₁, hsave₁, hG₁, hsame₁⟩ := RunState.save_grown hF (s.begin q) hG
  have hrun := runPhases_cons codec c q rest s
  rw [choice_fresh hF hfp hnew] at hrun
  dsimp only at hrun
  -- a stage that succeeds: its dataset is written, and the marker saved
  have hok : ∀ v, stage = .ok v → ∃ W₃, Grown T w₀ W₃ ∧ W₃.fileAt? (T ++ [x]) = some (out v) ∧
      SameInside T (writeNames "pipeline_state.json" ++ writeNames x ++
        writeNames "pipeline_state.json") s.files W₃ ∧
      s.runPhase codec c q fp =
        (⟨W₃, (s.progress.invalidateFrom q).mark q fp, prefs, s.events ++ [.started q]⟩, none) := by
    intro v hv
    have hprod₁ : ({ s.begin q with files := W₁ } : RunState α).produce codec c q =
        .ok (out v, { s.begin q with files := W₁, prefs := prefs }) := by
      rw [hprod W₁ hG₁ hsame₁, hv]
      rfl
    obtain ⟨W₂, hstore, hG₂, hfile₂, hsame₂⟩ :=
      RunState.store_grown hF { s.begin q with files := W₁, prefs := prefs } hG₁ hx (out v)
    obtain ⟨W₃, hsave₃, hG₃, hsame₃⟩ := RunState.save_grown hF
      ⟨W₂, (s.progress.invalidateFrom q).mark q fp, prefs, s.events ++ [.started q]⟩ hG₂
    exact ⟨W₃, hG₃, (hsame₃ x (Phase.dataset?_plain hx).2.2.2).trans hfile₂,
      (hsame₁.trans hsame₂).trans hsame₃, RunState.runPhase_of_ok hsave₁ hprod₁ hstore hsave₃⟩
  refine ⟨fun recs hr => ?_, fun e hr => ?_⟩
  · obtain ⟨v, hv, hl⟩ := (bind_eq_ok _ _ _).1 hr
    obtain ⟨W₃, hG₃, hfile₃, hsame₃, hstep⟩ := hok v hv
    obtain ⟨s', W, P, hrest, hrest'⟩ := (hlater v W₃ hv hG₃ hfile₃ hsame₃).1 recs hl
    exact ⟨s', W, P, by rw [hrun, hstep]; exact hrest, hrest'⟩
  · cases hv : stage with
    | error f =>
      have hprod₁ : ({ s.begin q with files := W₁ } : RunState α).produce codec c q = .error f := by
        rw [hprod W₁ hG₁ hsame₁, hv]
        rfl
      obtain ⟨stop, hstop⟩ := RunState.runPhase_of_error hsave₁ hprod₁
      exact ⟨_, stop, by rw [hrun, hstop]⟩
    | ok v =>
      rw [hv] at hr
      obtain ⟨W₃, hG₃, hfile₃, hsame₃, hstep⟩ := hok v hv
      obtain ⟨s', stop, hrest⟩ := (hlater v W₃ hv hG₃ hfile₃ hsame₃).2 e hr
      exact ⟨s', stop, by rw [hrun, hstep]; exact hrest⟩

/-- **The last phase of a fresh run.** Given what its stage gives from the files the phase finds,
the phase writes the stage's recommendations at the output path and saves its marker, and the
run completes; when the stage fails, the run stops. -/
theorem ends_aggregate (hF : c.FreshStart w₀ T O name) {s : RunState α} (hG : Grown T w₀ s.files)
    {fp : String} (hfp : c.fingerprint .aggregate = .ok fp)
    (hnew : s.progress.isComplete .aggregate fp = false)
    {r : Except Failure (List (Int × List (Recommendation α)))}
    (hprod : ∀ W, Grown T w₀ W → SameInside T (writeNames "pipeline_state.json") s.files W →
      ({ s.begin .aggregate with files := W } : RunState α).produce codec c .aggregate =
        r.map fun recs => (.bytes (codec.text recs).toUTF8.toList,
          { s.begin .aggregate with files := W })) :
    Ends codec c T O name [.aggregate] s r := by
  obtain ⟨W₁, hsave₁, hG₁, hsame₁⟩ := RunState.save_grown hF (s.begin .aggregate) hG
  have hrun := runPhases_cons codec c .aggregate [] s
  rw [choice_fresh hF hfp hnew] at hrun
  dsimp only at hrun
  refine ⟨fun recs hr => ?_, fun e hr => ?_⟩
  · have hprod₁ : ({ s.begin .aggregate with files := W₁ } : RunState α).produce codec c .aggregate =
        .ok (.bytes (codec.text recs).toUTF8.toList, { s.begin .aggregate with files := W₁ }) := by
      rw [hprod W₁ hG₁ hsame₁, hr]
      rfl
    obtain ⟨W₂, hstore, hW₂⟩ := RunState.store_output hF { s.begin .aggregate with files := W₁ }
      hG₁ (.bytes (codec.text recs).toUTF8.toList)
    obtain ⟨W₃, hsave₃, hwrite, hframe⟩ := RunState.save_output_written hF hG₁
      ⟨W₂, (s.progress.invalidateFrom .aggregate).mark .aggregate fp, s.prefs,
        s.events ++ [.started .aggregate]⟩ hW₂
    have hrun' : runPhases codec c [.aggregate] s =
        (⟨W₃, (s.progress.invalidateFrom .aggregate).mark .aggregate fp, s.prefs,
          s.events ++ [.started .aggregate]⟩, none) := by
      rw [hrun, RunState.runPhase_of_ok hsave₁ hprod₁ hstore hsave₃]
      rfl
    exact ⟨_, W₂, _, hrun', by rw [hW₂]; simp, hwrite, hframe⟩
  · have hprod₁ : ({ s.begin .aggregate with files := W₁ } : RunState α).produce codec c .aggregate =
        .error e := by
      rw [hprod W₁ hG₁ hsame₁, hr]
      rfl
    obtain ⟨stop, hstop⟩ := RunState.runPhase_of_error hsave₁ hprod₁
    exact ⟨_, stop, by rw [hrun, hstop]⟩

/-- **A fresh run computes the stages.** From phase 0 to phase 4 with an empty temporary
directory, on preferences and a users file that read: when the stages give recommendations on
what the run reads, the run completes with their text at the output path; when they fail, it
stops. -/
theorem runPhases_fresh (hF : c.FreshStart w₀ T O name) {prefs : List (Preference Float)}
    (hprefs : readPreferences w₀ c.inputPath c.booleanData = .ok prefs)
    {users : Option (List Int)} (husers : readUserIds w₀ c.usersFile = .ok users) :
    Ends codec c T O name Phase.all ⟨w₀, Progress.fresh, none, []⟩
      (runStages (prefs.map (Preference.map codec.ofDouble)) users c.maxPrefsPerUser
        c.numRecommendations c.numSplits) := by
  have hE := hF.temp_empty
  have hfp := Config.fingerprint_ok (hasNul_of_readPreferences hprefs)
    fun u hu => hasNul_of_readUserIds (hu ▸ husers)
  obtain ⟨fp₀, hfp₀⟩ := hfp .itemIndex
  obtain ⟨fp₁, hfp₁⟩ := hfp .userVectors
  obtain ⟨fp₂, hfp₂⟩ := hfp .cooccurrence
  obtain ⟨fp₃, hfp₃⟩ := hfp .partialMultiply
  obtain ⟨fp₄, hfp₄⟩ := hfp .aggregate
  -- the first phase reads the preferences, and every later one the datasets of earlier ones,
  -- which the phases between them left in place
  refine Ends.step codec hF (Grown.refl T w₀) rfl hfp₀ (Progress.isComplete_fresh _ _) _ _
    (fun W hG _ => RunState.produce_itemIndex rfl (hG.readPreferences hE hprefs))
    fun table W₁ _ hG₁ hfile₁ hsame₁ => ?_
  refine Ends.step codec hF hG₁ rfl hfp₁ (Progress.isComplete_after (by decide) _ _) _ _
    (fun W hG hsame => RunState.produce_userVectors rfl
      (hF.readDataset_temp hG rfl ((hsame _ (by decide)).trans hfile₁) rfl
        fun _ _ h => by cases h))
    fun vectors W₂ _ hG₂ hfile₂ hsame₂ => ?_
  refine Ends.step codec hF hG₂ rfl hfp₂ (Progress.isComplete_after (by decide) _ _) _ _
    (fun W hG hsame => RunState.produce_cooccurrence
      (hF.readDataset_temp hG rfl ((hsame _ (by decide)).trans hfile₂) rfl
        fun _ _ h => by cases h))
    fun columns W₃ _ hG₃ hfile₃ hsame₃ => ?_
  refine Ends.step codec hF hG₃ rfl hfp₃ (Progress.isComplete_after (by decide) _ _) _ _
    (fun W hG hsame => RunState.produce_partialMultiply (hG.readUserIds hE husers)
      (hF.readDataset_temp hG rfl ((hsame _ (by decide)).trans hfile₃) rfl
        fun _ _ h => by cases h)
      (hF.readDataset_temp hG rfl ((hsame _ (by decide)).trans ((hsame₃ _ (by decide)).trans hfile₂))
        rfl fun _ _ h => by cases h))
    fun joined W₄ _ hG₄ hfile₄ hsame₄ => ?_
  exact ends_aggregate codec hF hG₄ hfp₄ (Progress.isComplete_after (by decide) _ _)
    fun W hG hsame => RunState.produce_aggregate
      (hF.readDataset_temp hG rfl ((hsame _ (by decide)).trans ((hsame₄ _ (by decide)).trans
        ((hsame₃ _ (by decide)).trans ((hsame₂ _ (by decide)).trans hfile₁)))) rfl
        fun _ _ h => by cases h)
      (hF.readDataset_temp hG rfl ((hsame _ (by decide)).trans hfile₄) rfl
        fun _ _ h => by cases h)

/-- A run whose phases go through answers with the output path. -/
theorem Config.runWith_of_ok {P : Progress} (hload : Progress.load w₀ c.statePath = .ok P)
    {s' : RunState α} (h : runPhases codec c Phase.all ⟨w₀, P, none, []⟩ = (s', none)) :
    (c.runWith codec w₀).result = .ok c.outputPath ∧ (c.runWith codec w₀).files = s'.files := by
  simp [Config.runWith, hload, h]

/-- A run whose phases stop answers with the stop. -/
theorem Config.runWith_of_stop {P : Progress} (hload : Progress.load w₀ c.statePath = .ok P)
    {s' : RunState α} {stop : Stop} (h : runPhases codec c Phase.all ⟨w₀, P, none, []⟩ = (s', some stop)) :
    (c.runWith codec w₀).result = .error stop := by
  simp [Config.runWith, hload, h]

end Run

/-! ## What a fresh run writes -/

section Output

open Reference

/-- **A fresh run writes the specification's recommendations.** Over the rationals, a run from
phase 0 to phase 4 with an empty temporary directory, on preferences and a users file that read,
with every item id a signed 64-bit word, succeeds; the file it writes at the output path, before
it saves its last marker, holds the text of the specification's recommendations for what it
read: the users with candidates, ascending, each with their best items by score. -/
theorem runWith_fresh_recommendations (codec : Codec ℚ) {c : Config} {w₀ : Workspace ℚ}
    {T O : List String} {name : String} (hF : c.FreshStart w₀ T O name)
    {prefs : List (Preference Float)}
    (hprefs : readPreferences w₀ c.inputPath c.booleanData = .ok prefs)
    {users : Option (List Int)} (husers : readUserIds w₀ c.usersFile = .ok users)
    (hfits : ∀ p ∈ prefs, fitsWord p.item = true) :
    (c.runWith codec w₀).result = .ok c.outputPath ∧
      ∃ (W : Workspace ℚ) (P : Progress),
        W.fileAtPath? c.outputPath = some (.bytes (codec.text (recommendations
          (prefs.map (Preference.map codec.ofDouble)) users c.maxPrefsPerUser
          c.numRecommendations.toNat)).toUTF8.toList) ∧
        P.write W c.statePath = ((c.runWith codec w₀).files, none) := by
  have hfits' : ∀ p ∈ prefs.map (Preference.map codec.ofDouble), fitsWord p.item = true := by
    intro p hp
    obtain ⟨q, hq, rfl⟩ := List.mem_map.1 hp
    exact hfits q hq
  have hstages := runStages_eq_recommendations _ users c.maxPrefsPerUser_pos
    c.numRecommendations_pos c.numSplits_pos hfits'
  obtain ⟨s', W, P, hrun, hout, hwrite, -⟩ := (runPhases_fresh codec hF hprefs husers).1 _ hstages
  obtain ⟨hres, hfiles⟩ := Config.runWith_of_ok codec hF.load_fresh hrun
  refine ⟨hres, W, P, ?_, hfiles ▸ hwrite⟩
  rw [fileAtPath?, hF.place_output]
  exact hout

/-- The settings of a boolean run from `prefs.csv` to `recs.txt` over `tmp`, in one split. -/
def booleanSettings : List (String × Setting) :=
  [("input_path", .text "prefs.csv"), ("output_path", .text "recs.txt"), ("temp_dir", .text "tmp"),
    ("boolean_data", .bool true), ("num_splits", .int 1)]

/-- Three boolean preferences by two users in `prefs.csv`, beside an empty directory `tmp`. -/
def threeBooleanRatings : Workspace ℚ :=
  ⟨[(["prefs.csv"], .bytes "1,10\n2,10\n2,11\n".toUTF8.toList)], [["tmp"]]⟩

/-- Rationals for boolean preferences, every value one, written as one line per user. -/
def booleanRationals : Codec ℚ :=
  ⟨fun _ => 1, fun _ => 1, fun recs => String.join (recs.map fun r => toString r.1 ++ "\n")⟩

/-- The three ratings read as preferences of users 1 and 2 for items 10 and 11. -/
theorem threeBooleanRatings_read :
    ∃ prefs, readPreferences threeBooleanRatings (.ofString "prefs.csv") true = .ok prefs ∧
      prefs.map (fun p => (p.user, p.item)) = [(1, 10), (2, 10), (2, 11)] ∧
      ∀ p ∈ prefs, fitsWord p.item = true := by
  -- the preferences read hold doubles, so they are taken as read and known by users and items
  have hitems : (readPreferences threeBooleanRatings (.ofString "prefs.csv") true).toOption.map
      (List.map fun p => (p.user, p.item)) = some [(1, 10), (2, 10), (2, 11)] := by decide +kernel
  have hfits : ∀ p ∈ (readPreferences threeBooleanRatings (.ofString "prefs.csv")
      true).toOption.getD [], fitsWord p.item = true := by decide +kernel
  cases h : readPreferences threeBooleanRatings (.ofString "prefs.csv") true with
  | error e =>
    rw [h] at hitems
    cases hitems
  | ok prefs =>
    rw [h] at hitems hfits
    exact ⟨prefs, rfl, Option.some.inj hitems, hfits⟩

/-- The boolean run starts fresh on the three ratings, with no users file: its temporary
directory `tmp` is there and empty, its output `recs.txt` goes to the top, and it reads the
ratings as preferences of users 1 and 2 for items 10 and 11. -/
theorem booleanRun_fresh : ∃ c, Config.validate booleanSettings = .ok c ∧
    c.FreshStart threeBooleanRatings ["tmp"] [] "recs.txt" ∧
    readUserIds threeBooleanRatings c.usersFile = .ok none ∧
    ∃ prefs, readPreferences threeBooleanRatings c.inputPath c.booleanData = .ok prefs ∧
      prefs.map (fun p => (p.user, p.item)) = [(1, 10), (2, 10), (2, 11)] ∧
      ∀ p ∈ prefs, fitsWord p.item = true :=
  ⟨_, rfl, ⟨rfl, rfl, by decide +kernel, rfl, by unfold VacantBelow; decide +kernel,
    by decide +kernel, rfl, rfl, by decide, by decide, by decide,
    entryAt?_ne_directory (by decide +kernel), entryAt?_ne_directory (by decide +kernel)⟩,
    rfl, threeBooleanRatings_read⟩

/-- A fresh run on the three ratings writes the recommendations of the specification. -/
theorem fresh_run_of_boolean_ratings :
    ∃ c, Config.validate booleanSettings = .ok c ∧
    c.FreshStart threeBooleanRatings ["tmp"] [] "recs.txt" ∧
    readUserIds threeBooleanRatings c.usersFile = .ok none ∧
    ∃ prefs, readPreferences threeBooleanRatings c.inputPath c.booleanData = .ok prefs ∧
      prefs.map (fun p => (p.user, p.item)) = [(1, 10), (2, 10), (2, 11)] ∧
      (∀ p ∈ prefs, fitsWord p.item = true) ∧
      (c.runWith booleanRationals threeBooleanRatings).result = .ok c.outputPath ∧
      ∃ (W : Workspace ℚ) (P : Progress),
        W.fileAtPath? c.outputPath = some (.bytes (booleanRationals.text (recommendations
          (prefs.map (Preference.map booleanRationals.ofDouble)) none c.maxPrefsPerUser
          c.numRecommendations.toNat)).toUTF8.toList) ∧
        P.write W c.statePath = ((c.runWith booleanRationals threeBooleanRatings).files, none) := by
  obtain ⟨c, hc, hF, hu, prefs, h, hitems, hfits⟩ := booleanRun_fresh
  exact ⟨c, hc, hF, hu, prefs, h, hitems, hfits,
    runWith_fresh_recommendations booleanRationals hF h hu hfits⟩

/-- **The lines of a fresh run's output are ranked.** Over any number type whose scores compare
as doubles do (read off `key`), a run from phase 0 to phase 4 with an empty temporary directory,
on preferences and a users file that read, whose output is not the state file or its staging
file: when it succeeds, its output file holds the text of lines whose users ascend, each a
`RankedLine`; and it succeeds unless some item id lies outside the signed 64-bit range. -/
theorem runWith_fresh_lines_ranked {α β : Type} [Scalar α] [Inhabited α] [LinearOrder β]
    {key : α → β} (hkey : IeeeOrder key) (codec : Codec α) {c : Config} {w₀ : Workspace α}
    {T O : List String} {name : String} (hF : c.FreshStart w₀ T O name)
    {prefs : List (Preference Float)}
    (hprefs : readPreferences w₀ c.inputPath c.booleanData = .ok prefs)
    {users : Option (List Int)} (husers : readUserIds w₀ c.usersFile = .ok users)
    (hapart : O ++ [name] ≠ T ++ ["pipeline_state.json"] ∧
      O ++ [name] ≠ T ++ ["pipeline_state.json.tmp"]) :
    ((c.runWith codec w₀).result = .ok c.outputPath →
      ∃ lines, (c.runWith codec w₀).files.fileAtPath? c.outputPath =
          some (.bytes (codec.text lines).toUTF8.toList) ∧
        (lines.map Prod.fst).Pairwise (· < ·) ∧
        ∀ line ∈ lines, RankedLine key (prefs.map (Preference.map codec.ofDouble)) users
          c.numRecommendations.toNat line) ∧
    ((c.runWith codec w₀).result = .ok c.outputPath ∨ ∃ p ∈ prefs, fitsWord p.item = false) := by
  obtain ⟨hranked, hfails⟩ := runStages_lines_ranked hkey (prefs.map (Preference.map codec.ofDouble))
    users c.maxPrefsPerUser_pos c.numSplits_pos
  have hends := runPhases_fresh codec hF hprefs husers
  cases hst : runStages (prefs.map (Preference.map codec.ofDouble)) users c.maxPrefsPerUser
      c.numRecommendations c.numSplits with
  | ok lines =>
    -- the last save leaves the output where the phase wrote it
    obtain ⟨s', W, P, hrun, hout, -, hframe⟩ := hends.1 lines hst
    obtain ⟨hres, hfiles⟩ := Config.runWith_of_ok codec hF.load_fresh hrun
    refine ⟨fun _ => ⟨lines, ?_, hranked lines hst⟩, .inl hres⟩
    rw [fileAtPath?, hF.place_output, Option.bind_some, hfiles, hframe _ hapart.1 hapart.2]
    exact hout
  | error e =>
    -- the run stops, on an item id that is no word
    obtain ⟨s', stop, hrun⟩ := hends.2 e hst
    have hres := Config.runWith_of_stop codec hF.load_fresh hrun
    obtain ⟨p, hp, hfit⟩ := hfails e hst
    obtain ⟨q, hq, rfl⟩ := List.mem_map.1 hp
    refine ⟨fun h => ?_, .inr ⟨q, hq, hfit⟩⟩
    rw [hres] at h
    cases h

/-- A fresh run on the three ratings writes ranked lines. -/
theorem fresh_run_lines_of_boolean_ratings :
    IeeeOrder (id : ℚ → ℚ) ∧ ∃ c, Config.validate booleanSettings = .ok c ∧
    c.FreshStart threeBooleanRatings ["tmp"] [] "recs.txt" ∧
    readUserIds threeBooleanRatings c.usersFile = .ok none ∧
    ([] ++ ["recs.txt"] ≠ ["tmp"] ++ ["pipeline_state.json"] ∧
      [] ++ ["recs.txt"] ≠ ["tmp"] ++ ["pipeline_state.json.tmp"]) ∧
    ∃ prefs, readPreferences threeBooleanRatings c.inputPath c.booleanData = .ok prefs ∧
      prefs.map (fun p => (p.user, p.item)) = [(1, 10), (2, 10), (2, 11)] ∧
      ((c.runWith booleanRationals threeBooleanRatings).result = .ok c.outputPath →
        ∃ lines, (c.runWith booleanRationals threeBooleanRatings).files.fileAtPath?
            c.outputPath = some (.bytes (booleanRationals.text lines).toUTF8.toList) ∧
          (lines.map Prod.fst).Pairwise (· < ·) ∧
          ∀ line ∈ lines, RankedLine id (prefs.map (Preference.map booleanRationals.ofDouble))
            none c.numRecommendations.toNat line) ∧
      ((c.runWith booleanRationals threeBooleanRatings).result = .ok c.outputPath ∨
        ∃ p ∈ prefs, fitsWord p.item = false) := by
  have hapart : [] ++ ["recs.txt"] ≠ ["tmp"] ++ ["pipeline_state.json"] ∧
      [] ++ ["recs.txt"] ≠ ["tmp"] ++ ["pipeline_state.json.tmp"] := by decide
  obtain ⟨c, hc, hF, hu, prefs, h, hitems, -⟩ := booleanRun_fresh
  exact ⟨ieeeOrder_rat, c, hc, hF, hu, hapart, prefs, h, hitems,
    runWith_fresh_lines_ranked ieeeOrder_rat booleanRationals hF h hu hapart⟩

end Output

end ItemRecommender
