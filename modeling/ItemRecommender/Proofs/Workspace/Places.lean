import Mathlib
import ItemRecommender.Workspace

/-! # Places of path names

    A path name leads to one location whatever the working directory holds: the directories on
    the way decide only whether it gets there (`reach_walk`). So a file can be followed through
    a run by its location, its place (`place?`).

    Writing a file whole puts the content at the place of its path and changes no other file
    but the staging one beside it, which it leaves removed (`writeWhole_fileAt?`); a write
    refused part way changes no file but the staging one (`writeStaged_leftover`). Either way
    every directory stays (`KeepsDirs`), so a path reached before is reached after. -/

namespace ItemRecommender.Workspace

/-- The location components lead to from a location, whatever lies on the way: `..` climbs to
the parent, and climbing above the working directory leads nowhere. -/
def walk : List String → List String → Option (List String)
  | here, [] => some here
  | here, c :: rest =>
    if c = ".." then (if here.isEmpty then none else walk here.dropLast rest)
    else walk (here ++ [c]) rest

/-- The place a path name names: the location its components lead to. -/
def place? (p : PathName) : Option (List String) :=
  if p.hasNul then none else walk (origin p.root) p.parts

/-- The file at the place of a path name, whether or not the way to it is open. -/
def fileAtPath? {α : Type} (w : Workspace α) (p : PathName) : Option (Content α) :=
  (place? p).bind w.fileAt?

variable {α : Type} {w w' : Workspace α}

/-! ## Where a path leads -/

theorem reach_walk : ∀ {here loc : List String} {parts : List String},
    w.reach here parts = .ok loc → walk here parts = some loc := by
  intro here loc parts h
  induction parts generalizing here with
  | nil =>
    simp only [reach, pure, Except.pure, Except.ok.injEq] at h
    rw [h]
    rfl
  | cons c rest ih =>
    unfold reach at h
    split at h
    · -- a directory: the walk goes on where the component leads
      by_cases hc : c = ".."
      · by_cases hempty : here.isEmpty
        · simp [hc, hempty, throw, throwThe, MonadExceptOf.throw] at h
        · simp only [hc, hempty, if_true, if_false, Bool.false_eq_true] at h
          simp only [walk, hc, hempty, if_true, if_false, Bool.false_eq_true]
          exact ih h
      · simp only [hc, if_false] at h
        simp only [walk, hc, if_false]
        exact ih h
    · simp [throw, throwThe, MonadExceptOf.throw] at h
    · simp [throw, throwThe, MonadExceptOf.throw] at h

/-- A path locates exactly where it is reached. -/
theorem locate_eq_some {p : PathName} {loc : List String} :
    w.locate p = some loc ↔ w.reachPath p = .ok loc := by
  unfold locate
  cases w.reachPath p <;> simp [Except.toOption]

/-- A path that is reached names the place it reaches. -/
theorem reachPath_place {p : PathName} {loc : List String} (h : w.reachPath p = .ok loc) :
    place? p = some loc := by
  unfold reachPath at h
  unfold place?
  by_cases hnul : p.hasNul
  · simp [hnul, throw, throwThe, MonadExceptOf.throw] at h
  · simp only [hnul, Bool.false_eq_true, if_false] at h ⊢
    exact reach_walk h

/-- A last component other than `..` goes one step below where the others lead. -/
theorem walk_append_single (x : String) (hx : x ≠ "..") :
    ∀ (here parts : List String), walk here (parts ++ [x]) = (walk here parts).map (· ++ [x]) := by
  intro here parts
  induction parts generalizing here with
  | nil => simp [walk, hx]
  | cons c rest ih =>
    by_cases hc : c = ".."
    · by_cases hempty : here.isEmpty
      · simp [walk, hc, hempty]
      · simp only [List.cons_append, walk, hc, if_true, hempty, Bool.false_eq_true, if_false]
        exact ih _
    · simp only [List.cons_append, walk, hc, if_false]
      exact ih _

/-! ## Files by location -/

@[simp] theorem fileAt?_put (loc : List String) (c : Content α) (l : List String) :
    (w.put loc c).fileAt? l = if l = loc then some c else w.fileAt? l := by
  unfold put
  split_ifs with hloc hl hl
  · -- the file at the location is replaced in place
    subst hl
    obtain ⟨c₀, hc₀⟩ := Option.isSome_iff_exists.1 hloc
    obtain ⟨f, hf, hfl⟩ : ∃ f, w.files.find? (·.1 = l) = some f ∧ f.1 = l := by
      unfold fileAt? at hc₀
      obtain ⟨f, hf, -⟩ := Option.map_eq_some_iff.1 hc₀
      exact ⟨f, hf, by simpa using List.find?_some hf⟩
    simp only [fileAt?, List.find?_map]
    have hcomp : ((fun f : List String × Content α => decide (f.1 = l)) ∘
        fun f => if f.1 = l then (l, c) else f) = fun f => decide (f.1 = l) := by
      funext g
      by_cases hg : g.1 = l <;> simp [hg]
    rw [hcomp, hf]
    simp [hfl]
  · simp only [fileAt?, List.find?_map]
    have hcomp : ((fun f : List String × Content α => decide (f.1 = l)) ∘
        fun f => if f.1 = loc then (loc, c) else f) = fun f => decide (f.1 = l) := by
      funext g
      by_cases hg : g.1 = loc
      · simp [hg, Ne.symm hl]
      · simp [hg]
    rw [hcomp]
    cases hf : w.files.find? (·.1 = l) with
    | none => rfl
    | some f =>
      have hfl : f.1 = l := by simpa using List.find?_some hf
      simp [hfl, hl]
  · -- a new file goes at the end
    subst hl
    have hnone : w.files.find? (·.1 = l) = none := by
      cases hf : w.files.find? (·.1 = l) with
      | none => rfl
      | some f => simp [fileAt?, hf] at hloc
    simp [fileAt?, List.find?_append, hnone]
  · have hne : ∀ g ∈ [(loc, c)], ¬ decide (g.1 = l) = true := by simp [Ne.symm hl]
    simp only [fileAt?, List.find?_append, List.find?_eq_none.2 hne, Option.or_none]

@[simp] theorem fileAt?_unput (loc l : List String) :
    (w.unput loc).fileAt? l = if l = loc then none else w.fileAt? l := by
  simp only [unput, fileAt?, List.find?_filter]
  split_ifs with hl
  · subst hl
    rw [List.find?_eq_none.2]
    · rfl
    · intro g _
      by_cases hg : g.1 = l <;> simp [hg]
  · congr 2
    funext g
    by_cases hg : g.1 = l
    · simp [hg, hl]
    · simp [hg]

/-! ## Directories -/

/-- A directory is a location holding no file that is a directory. -/
theorem entryAt?_eq_directory (d : List String) :
    w.entryAt? d = some .directory ↔ w.fileAt? d = none ∧ w.isDir d = true := by
  unfold entryAt?
  cases w.fileAt? d with
  | some c => simp
  | none => split_ifs with h <;> simp [h]

theorem entryAt?_eq_file (l : List String) (c : Content α) :
    w.entryAt? l = some (.file c) ↔ w.fileAt? l = some c := by
  unfold entryAt?
  cases w.fileAt? l with
  | some c' => simp
  | none => split_ifs <;> simp

/-- Every directory of `w` is a directory of `w'`. -/
def KeepsDirs (w w' : Workspace α) : Prop :=
  ∀ d, w.entryAt? d = some .directory → w'.entryAt? d = some .directory

theorem KeepsDirs.refl (w : Workspace α) : KeepsDirs w w := fun _ h => h

/-- Keeping directories composes. -/
theorem KeepsDirs.trans {w₁ w₂ w₃ : Workspace α} (h₁ : KeepsDirs w₁ w₂) (h₂ : KeepsDirs w₂ w₃) :
    KeepsDirs w₁ w₃ := fun d h => h₂ d (h₁ d h)

/-- The way to a location is open as long as the directories on it stay. -/
theorem reach_of_keepsDirs (hk : KeepsDirs w w') : ∀ {here loc : List String} {parts : List String},
    w.reach here parts = .ok loc → w'.reach here parts = .ok loc := by
  intro here loc parts h
  induction parts generalizing here with
  | nil => simpa [reach] using h
  | cons c rest ih =>
    unfold reach at h ⊢
    split at h
    · next hdir =>
      rw [hk here hdir]
      dsimp only
      split_ifs at h ⊢ <;> exact ih h
    · simp [throw, throwThe, MonadExceptOf.throw] at h
    · simp [throw, throwThe, MonadExceptOf.throw] at h

/-- Once the directories are kept, a path reaches where it did. -/
theorem reachPath_of_keepsDirs (hk : KeepsDirs w w') {p : PathName} {loc : List String}
    (h : w.reachPath p = .ok loc) : w'.reachPath p = .ok loc := by
  unfold reachPath at h ⊢
  split_ifs at h ⊢
  exact reach_of_keepsDirs hk h

/-- A location is a directory: the working directory, a made one, or one above a file. -/
theorem isDir_iff (d : List String) :
    w.isDir d = true ↔
      d = [] ∨ d ∈ w.dirs ∨ ∃ f ∈ w.files, d.length < f.1.length ∧ f.1.take d.length = d := by
  simp [isDir, List.any_eq_true, or_assoc]

/-- Files may be added and directories made, but every file location stays in use. -/
theorem keepsDirs_of_locations (hdirs : ∀ d ∈ w.dirs, d ∈ w'.dirs)
    (hfiles : ∀ f ∈ w.files, ∃ f' ∈ w'.files, f'.1 = f.1)
    (hnew : ∀ d, w'.fileAt? d ≠ none → w.fileAt? d ≠ none) : KeepsDirs w w' := by
  intro d hd
  rw [entryAt?_eq_directory] at hd ⊢
  obtain ⟨hfile, hdir⟩ := hd
  refine ⟨by_contra fun h => hnew d h hfile, ?_⟩
  rw [isDir_iff] at hdir ⊢
  rcases hdir with h | h | ⟨f, hf, hlen, htake⟩
  · exact Or.inl h
  · exact Or.inr (Or.inl (hdirs d h))
  · obtain ⟨f', hf', hloc⟩ := hfiles f hf
    exact Or.inr (Or.inr ⟨f', hf', hloc ▸ hlen, hloc ▸ htake⟩)

/-- Making directories, whether it gets through or not, keeps every directory and every file. -/
theorem keepsDirs_makeDirsFrom (here parts : List String) :
    KeepsDirs w (w.makeDirsFrom here parts).1 ∧ (w.makeDirsFrom here parts).1.files = w.files := by
  induction parts generalizing w here with
  | nil => exact ⟨KeepsDirs.refl _, rfl⟩
  | cons c rest ih =>
    unfold makeDirsFrom
    by_cases hc : c = ".."
    · by_cases hempty : here.isEmpty
      · rw [if_pos hc, if_pos hempty]
        exact ⟨KeepsDirs.refl _, rfl⟩
      · rw [if_pos hc, if_neg hempty]
        exact ih _
    · simp only [hc, if_false]
      split
      · exact ih _
      · exact ⟨KeepsDirs.refl _, rfl⟩
      · -- a missing directory is made: the files stay
        obtain ⟨hk, hfiles⟩ := ih (w := { w with dirs := w.dirs ++ [here ++ [c]] }) (here ++ [c])
        refine ⟨KeepsDirs.trans ?_ hk, hfiles⟩
        exact keepsDirs_of_locations (by simp +contextual) (fun f hf => ⟨f, hf, rfl⟩)
          (fun d hd => hd)

/-- Making directories keeps every directory and every file. -/
theorem createDirs_keeps (p : PathName) :
    KeepsDirs w (w.createDirs p).1 ∧ (w.createDirs p).1.files = w.files := by
  unfold createDirs
  split_ifs
  · exact ⟨KeepsDirs.refl _, rfl⟩
  · exact ⟨KeepsDirs.refl _, rfl⟩
  · have h := keepsDirs_makeDirsFrom (w := w) (origin p.root) p.parts
    revert h
    cases w.makeDirsFrom (origin p.root) p.parts
    exact id

@[simp] theorem fileAt?_createDirs (p : PathName) (l : List String) :
    (w.createDirs p).1.fileAt? l = w.fileAt? l := by
  simp only [fileAt?, (createDirs_keeps p).2]

@[simp] theorem dirs_put (loc : List String) (c : Content α) : (w.put loc c).dirs = w.dirs := by
  unfold put
  split_ifs <;> rfl

@[simp] theorem dirs_unput (loc : List String) : (w.unput loc).dirs = w.dirs := rfl

/-- Putting a file keeps the location of every file. -/
theorem put_keeps_locations (loc : List String) (c : Content α) :
    ∀ f ∈ w.files, ∃ f' ∈ (w.put loc c).files, f'.1 = f.1 := by
  intro f hf
  unfold put
  split_ifs
  · exact ⟨_, List.mem_map_of_mem hf, by split_ifs with h <;> simp [h]⟩
  · exact ⟨f, List.mem_append_left _ hf, rfl⟩

theorem exists_mem_files_of_fileAt? {l : List String} {c : Content α} (h : w.fileAt? l = some c) :
    ∃ f ∈ w.files, f.1 = l := by
  unfold fileAt? at h
  obtain ⟨f, hf, -⟩ := Option.map_eq_some_iff.1 h
  exact ⟨f, List.mem_of_find?_eq_some hf, by simpa using List.find?_some hf⟩

/-- A file put where there is no directory keeps every directory. -/
theorem keepsDirs_put {loc : List String} {c : Content α} (hloc : w.entryAt? loc ≠ some .directory) :
    KeepsDirs w (w.put loc c) := by
  intro d hd
  have hne : d ≠ loc := by rintro rfl; exact hloc hd
  rw [entryAt?_eq_directory] at hd ⊢
  refine ⟨by rw [fileAt?_put, if_neg hne]; exact hd.1, ?_⟩
  have hd2 := hd.2
  rw [isDir_iff] at hd2 ⊢
  rcases hd2 with h | h | ⟨f, hf, hlen, htake⟩
  · exact Or.inl h
  · exact Or.inr (Or.inl (by simpa using h))
  · obtain ⟨f', hf', hloc'⟩ := put_keeps_locations loc c f hf
    exact Or.inr (Or.inr ⟨f', hf', hloc' ▸ hlen, hloc' ▸ htake⟩)

/-- Moving a file to a location beside it keeps every directory: a directory that only the
moved file lay below has the file below it again. -/
theorem keepsDirs_move {dir : List String} {a b : String} {c₀ c : Content α}
    (hhere : w.entryAt? (dir ++ [a]) = some (.file c₀))
    (hthere : w.entryAt? (dir ++ [b]) ≠ some .directory) :
    KeepsDirs w ((w.unput (dir ++ [a])).put (dir ++ [b]) c) := by
  intro d hd
  have hne_there : d ≠ dir ++ [b] := by rintro rfl; exact hthere hd
  have hne_here : d ≠ dir ++ [a] := by rintro rfl; simp [hhere] at hd
  rw [entryAt?_eq_directory] at hd ⊢
  refine ⟨by simp [hne_there, hne_here, hd.1], ?_⟩
  have hd2 := hd.2
  rw [isDir_iff] at hd2 ⊢
  rcases hd2 with h | h | ⟨f, hf, hlen, htake⟩
  · exact Or.inl h
  · exact Or.inr (Or.inl (by simpa using h))
  · by_cases hf_here : f.1 = dir ++ [a]
    · -- the moved file: its directories are those of its new location
      rw [hf_here] at hlen htake
      have hle : d.length ≤ dir.length := by simp at hlen; omega
      have hd_dir : dir.take d.length = d := by
        rwa [List.take_append_of_le_length hle] at htake
      obtain ⟨f', hf', hloc⟩ := exists_mem_files_of_fileAt?
        (show ((w.unput (dir ++ [a])).put (dir ++ [b]) c).fileAt? (dir ++ [b]) = some c by simp)
      refine Or.inr (Or.inr ⟨f', hf', ?_, ?_⟩)
      · rw [hloc]
        simp only [List.length_append, List.length_singleton]
        omega
      · rw [hloc, List.take_append_of_le_length hle, hd_dir]
    · have hkept : f ∈ (w.unput (dir ++ [a])).files := by
        simp only [unput, List.mem_filter, decide_eq_true_eq]
        exact ⟨hf, hf_here⟩
      obtain ⟨f', hf', hloc⟩ := put_keeps_locations (dir ++ [b]) c f hkept
      exact Or.inr (Or.inr ⟨f', hf', hloc ▸ hlen, hloc ▸ htake⟩)

/-! ## Writing a file -/

/-- An open for writing puts the content at the place the path reaches. -/
theorem openWrite_ok {p : PathName} {c : Content α} (h : w.openWrite p c = .ok w') :
    ∃ loc, w.reachPath p = .ok loc ∧ w.entryAt? loc ≠ some .directory ∧ w' = w.put loc c := by
  unfold openWrite at h
  split at h
  · simp [throw, throwThe, MonadExceptOf.throw] at h
  · next loc hloc =>
    split at h
    · simp [throw, throwThe, MonadExceptOf.throw] at h
    · next hdir =>
      simp only [pure, Except.pure, Except.ok.injEq] at h
      exact ⟨loc, hloc, hdir, h.symm⟩

/-- A move takes the file from its place to the target's. -/
theorem move_ok {source target : PathName} (h : w.move source target = .ok w') :
    ∃ here there c, w.locate source = some here ∧ w.entryAt? here = some (.file c) ∧
      target.parts.getLast? ≠ some ".." ∧ w.reachPath target = .ok there ∧
      w.entryAt? there ≠ some .directory ∧ w' = (w.unput here).put there c := by
  unfold move at h
  dsimp only at h
  split at h
  · next here hhere =>
    split at h
    · next c hc =>
      split_ifs at h with hdots
      · split at h <;> simp [throw, throwThe, MonadExceptOf.throw, bind, Except.bind] at h
      · split at h
        · simp [throw, throwThe, MonadExceptOf.throw] at h
        · next there hthere =>
          split at h
          · simp [throw, throwThe, MonadExceptOf.throw] at h
          · next hdir =>
            simp only [pure, Except.pure, Except.ok.injEq] at h
            exact ⟨here, there, c, hhere, hc, fun h' => hdots (Or.inl h'), hthere, hdir, h.symm⟩
    · simp [throw, throwThe, MonadExceptOf.throw] at h
  · simp [throw, throwThe, MonadExceptOf.throw] at h

theorem tmp_name_ne_up (name : String) : name ++ ".tmp" ≠ ".." := by
  intro h
  have hlen := congrArg String.length h
  rw [String.length_append, show ".tmp".length = 4 from rfl, show "..".length = 2 from rfl] at hlen
  omega

/-- The place of a path is where walking its parts leads. -/
theorem walk_of_place {q : PathName} {l : List String} (h : place? q = some l) :
    walk (origin q.root) q.parts = some l := by
  unfold place? at h
  split_ifs at h
  exact h

/-- The staging file of a path sits beside it: below the place of the path's directory. -/
theorem reachPath_staging {p : PathName} {name : String} {l : List String}
    (h : w.reachPath (p.parent.join (name ++ ".tmp")) = .ok l) :
    ∃ dir, walk (origin p.root) p.parent.parts = some dir ∧ l = dir ++ [name ++ ".tmp"] := by
  have hw := walk_of_place (reachPath_place h)
  rw [show (p.parent.join (name ++ ".tmp")).parts = p.parent.parts ++ [name ++ ".tmp"] from rfl,
    walk_append_single _ (tmp_name_ne_up name)] at hw
  obtain ⟨dir, h1, h2⟩ := Option.map_eq_some_iff.1 hw
  exact ⟨dir, h1, h2.symm⟩

/-- A write that succeeds, taken apart: the directories above the file are made, the content is
put in the staging file beside it, and that file is moved onto the path. -/
theorem writeStaged_ok {p : PathName} {c : Content α} (h : w.writeStaged p c = (w', none)) :
    ∃ w₁ dir name, w.createDirs p.parent = (w₁, none) ∧ place? p = some (dir ++ [name]) ∧
      w₁.entryAt? (dir ++ [name ++ ".tmp"]) ≠ some .directory ∧
      (w₁.put (dir ++ [name ++ ".tmp"]) c).reachPath p = .ok (dir ++ [name]) ∧
      (w₁.put (dir ++ [name ++ ".tmp"]) c).entryAt? (dir ++ [name]) ≠ some .directory ∧
      w' = (((w₁.put (dir ++ [name ++ ".tmp"]) c).unput (dir ++ [name ++ ".tmp"])).put
        (dir ++ [name]) c) := by
  unfold writeStaged at h
  rcases hm : w.createDirs p.parent with ⟨w₁, _ | f⟩ <;> rw [hm] at h
  · cases hn : p.name? with
    | none => simp [hn] at h
    | some name =>
      simp only [hn] at h
      cases ho : w₁.openWrite (p.parent.join (name ++ ".tmp")) c with
      | error e => simp [ho] at h
      | ok w₂ =>
        simp only [ho] at h
        obtain ⟨here, hreach, hdir, rfl⟩ := openWrite_ok ho
        cases hmv : (w₁.put here c).move (p.parent.join (name ++ ".tmp")) p with
        | error e => simp [hmv] at h
        | ok w₃ =>
          simp only [hmv, Prod.mk.injEq, and_true] at h
          subst h
          obtain ⟨here', there, c', hlocate, hfile, hlast, hthere, hdir', rfl⟩ := move_ok hmv
          -- both places sit in the directory the parent path leads to
          have hparts : p.parts = p.parent.parts ++ [name] :=
            (List.dropLast_append_getLast? _ hn).symm
          have hname : name ≠ ".." := fun h' => hlast (by rw [← h']; exact hn)
          obtain ⟨dir, hdir_walk, rfl⟩ := reachPath_staging hreach
          have htarget := reachPath_place hthere
          obtain rfl : there = dir ++ [name] := by
            have hw := walk_of_place htarget
            rw [hparts, walk_append_single _ hname, hdir_walk] at hw
            simpa [eq_comm] using hw
          -- the file moved is the staging file just put
          obtain rfl : here' = dir ++ [name ++ ".tmp"] := by
            unfold locate at hlocate
            cases hr : (w₁.put (dir ++ [name ++ ".tmp"]) c).reachPath
                (p.parent.join (name ++ ".tmp")) with
            | error e => simp [hr, Except.toOption] at hlocate
            | ok l =>
              simp only [hr, Except.toOption, Option.some.injEq] at hlocate
              have h1 := reachPath_place hr
              rw [reachPath_place hreach] at h1
              rw [← hlocate]
              exact (Option.some.inj h1).symm
          obtain rfl : c' = c := by simpa [entryAt?] using hfile.symm
          exact ⟨w₁, dir, name, rfl, htarget, hdir, hthere, hdir', rfl⟩
  · simp at h

/-- A write refused part way keeps every directory, and changes no file but the staging file it
had written. -/
theorem writeStaged_leftover {p : PathName} {c : Content α} {f : Failure}
    (h : w.writeStaged p c = (w', some f)) :
    KeepsDirs w w' ∧ ∀ l, w'.fileAt? l ≠ w.fileAt? l → ∃ dir name, l = dir ++ [name ++ ".tmp"] := by
  have hk₁ := (createDirs_keeps (w := w) p.parent).1
  have hsame := fileAt?_createDirs (w := w) p.parent
  unfold writeStaged at h
  rcases hm : w.createDirs p.parent with ⟨w₁, _ | g⟩ <;> rw [hm] at h hk₁ hsame <;>
    dsimp only at hk₁ hsame
  · cases hn : p.name? with
    | none =>
      simp only [hn, Prod.mk.injEq] at h
      obtain ⟨rfl, -⟩ := h
      exact ⟨hk₁, fun l hl => absurd (hsame l) hl⟩
    | some name =>
      simp only [hn] at h
      cases ho : w₁.openWrite (p.parent.join (name ++ ".tmp")) c with
      | error e =>
        simp only [ho, Prod.mk.injEq] at h
        obtain ⟨rfl, -⟩ := h
        exact ⟨hk₁, fun l hl => absurd (hsame l) hl⟩
      | ok w₂ =>
        simp only [ho] at h
        obtain ⟨here, hreach, hdir, rfl⟩ := openWrite_ok ho
        cases hmv : (w₁.put here c).move (p.parent.join (name ++ ".tmp")) p with
        | ok w₃ => simp [hmv] at h
        | error e =>
          -- the move was refused: the staging file stays
          simp only [hmv, Prod.mk.injEq] at h
          obtain ⟨rfl, -⟩ := h
          obtain ⟨dir, -, rfl⟩ := reachPath_staging hreach
          refine ⟨hk₁.trans (keepsDirs_put hdir), fun l hl => ⟨dir, name, ?_⟩⟩
          by_contra hne
          exact hl (by rw [fileAt?_put, if_neg hne, hsame])
  · simp only [Prod.mk.injEq] at h
    obtain ⟨rfl, -⟩ := h
    exact ⟨hk₁, fun l hl => absurd (hsame l) hl⟩

/-- A write ends well exactly when it leaves no refusal. -/
theorem writeWhole_eq_ok {p : PathName} {c : Content α} :
    w.writeWhole p c = .ok w' ↔ w.writeStaged p c = (w', none) := by
  unfold writeWhole
  rcases w.writeStaged p c with ⟨w₁, _ | f⟩ <;> simp [pure, Except.pure, throw, throwThe,
    MonadExceptOf.throw]

/-- Writing a file whole leaves the content at the place of its path; every other file is the
one that was there, or gone (the staging file). -/
theorem writeWhole_fileAt? {p : PathName} {c : Content α} (h : w.writeWhole p c = .ok w') :
    ∃ there, place? p = some there ∧ w'.fileAt? there = some c ∧
      ∀ l, l ≠ there → w'.fileAt? l = none ∨ w'.fileAt? l = w.fileAt? l := by
  obtain ⟨w₁, dir, name, hm, hplace, -, -, -, rfl⟩ := writeStaged_ok (writeWhole_eq_ok.1 h)
  have hsame : ∀ l, w₁.fileAt? l = w.fileAt? l := fun l => by
    rw [← fileAt?_createDirs (w := w) p.parent l, hm]
  refine ⟨dir ++ [name], hplace, by simp, fun l hl => ?_⟩
  by_cases hs : l = dir ++ [name ++ ".tmp"]
  · exact Or.inl (by simp [hs])
  · exact Or.inr (by simp [hl, hs, hsame])

/-- A path that reaches a file opens it. -/
theorem openRead_of_reach {p : PathName} {loc : List String} {c : Content α}
    (hreach : w.reachPath p = .ok loc) (hfile : w.fileAt? loc = some c) :
    w.exists? p = true ∧ w.openRead p = .ok c := by
  have hentry : w.entryAt? loc = some (.file c) := (entryAt?_eq_file loc c).2 hfile
  constructor
  · simp [exists?, locate, hreach, Except.toOption, hentry]
  · simp [openRead, hreach, hentry, pure, Except.pure]

/-- A file that opens is the file at the location its path reaches. -/
theorem openRead_ok {p : PathName} {c : Content α} (h : w.openRead p = .ok c) :
    ∃ loc, w.reachPath p = .ok loc ∧ w.fileAt? loc = some c := by
  unfold openRead at h
  split at h
  · simp [throw, throwThe, MonadExceptOf.throw] at h
  · next loc hloc =>
    split at h
    · next c' hc' =>
      simp only [pure, Except.pure, Except.ok.injEq] at h
      exact ⟨loc, hloc, h ▸ (entryAt?_eq_file loc c').1 hc'⟩
    · simp [throw, throwThe, MonadExceptOf.throw] at h
    · simp [throw, throwThe, MonadExceptOf.throw] at h

/-- A file written whole can be opened at its path, and holds what was written. -/
theorem openRead_writeWhole {p : PathName} {c : Content α} (h : w.writeWhole p c = .ok w') :
    w'.exists? p = true ∧ w'.openRead p = .ok c := by
  obtain ⟨w₁, dir, name, -, -, -, hthere, hdir', rfl⟩ := writeStaged_ok (writeWhole_eq_ok.1 h)
  have hstaging : (w₁.put (dir ++ [name ++ ".tmp"]) c).entryAt? (dir ++ [name ++ ".tmp"]) =
      some (.file c) := by simp [entryAt?]
  exact openRead_of_reach (reachPath_of_keepsDirs (keepsDirs_move (c := c) hstaging hdir') hthere)
    (by simp)

/-- A file keeps opening as it did while the directories stay and the file at its place is
kept. -/
theorem openRead_of_keepsDirs {p : PathName} {c : Content α} (hk : KeepsDirs w w')
    (hr : w.openRead p = .ok c) (hsame : ∀ loc, place? p = some loc → w'.fileAt? loc = w.fileAt? loc) :
    w'.exists? p = true ∧ w'.openRead p = .ok c := by
  obtain ⟨loc, hreach, hfile⟩ := openRead_ok hr
  exact openRead_of_reach (reachPath_of_keepsDirs hk hreach)
    ((hsame loc (reachPath_place hreach)).trans hfile)

/-! ## Writing into a directory that is there -/

/-- A path reaching a directory started from one. -/
theorem start_dir_of_reach {here d : List String} {parts : List String}
    (h : w.reach here parts = .ok d) (hd : w.entryAt? d = some .directory) :
    w.entryAt? here = some .directory := by
  cases parts with
  | nil =>
    obtain rfl : here = d := by simpa [reach, pure, Except.pure] using h
    exact hd
  | cons c rest =>
    unfold reach at h
    split at h
    · assumption
    · simp [throw, throwThe, MonadExceptOf.throw] at h
    · simp [throw, throwThe, MonadExceptOf.throw] at h

/-- A path one plain component longer reaches one step below the directory the shorter one
reaches. -/
theorem reach_append_single {x : String} (hx : x ≠ "..") : ∀ {here d : List String}
    {parts : List String}, w.reach here parts = .ok d → w.entryAt? d = some .directory →
      w.reach here (parts ++ [x]) = .ok (d ++ [x]) := by
  intro here d parts h hd
  induction parts generalizing here with
  | nil =>
    obtain rfl : here = d := by simpa [reach, pure, Except.pure] using h
    simp [reach, hd, hx, pure, Except.pure]
  | cons c rest ih =>
    rw [List.cons_append]
    unfold reach at h ⊢
    split at h
    · split_ifs at h ⊢ <;> exact ih h
    · simp [throw, throwThe, MonadExceptOf.throw] at h
    · simp [throw, throwThe, MonadExceptOf.throw] at h

/-- A plain name joined to a path that reaches a directory reaches inside it. -/
theorem reachPath_join {q : PathName} {d : List String} {x : String} (hx : x ≠ "..")
    (hnul : x.toList.contains '\x00' = false) (h : w.reachPath q = .ok d)
    (hd : w.entryAt? d = some .directory) : w.reachPath (q.join x) = .ok (d ++ [x]) := by
  unfold reachPath at h ⊢
  have hq : q.hasNul = false := by
    cases hn : q.hasNul
    · rfl
    · simp [hn, throw, throwThe, MonadExceptOf.throw] at h
  have hjoin : (q.join x).hasNul = false := by
    simp [PathName.hasNul, PathName.join, List.any_append] at hq ⊢
    exact ⟨hq, by simpa using hnul⟩
  rw [hq] at h
  rw [hjoin]
  exact reach_append_single hx h hd

/-- Every location above a directory a path reaches is a directory, down from the nonempty
locations above where the path starts. -/
theorem prefix_dir_of_reach : ∀ {here d : List String} {parts : List String},
    w.reach here parts = .ok d → (∀ l, l <+: here → l ≠ [] → w.entryAt? l = some .directory) →
      w.entryAt? d = some .directory → ∀ l, l <+: d → l ≠ [] → w.entryAt? l = some .directory := by
  intro here d parts h hhere hd
  induction parts generalizing here with
  | nil =>
    obtain rfl : here = d := by simpa [reach, pure, Except.pure] using h
    exact hhere
  | cons c rest ih =>
    unfold reach at h
    split at h
    · by_cases hc : c = ".."
      · by_cases hempty : here.isEmpty
        · simp [hc, hempty, throw, throwThe, MonadExceptOf.throw] at h
        · -- climbing: the locations above the parent are above here
          simp only [hc, hempty, if_true, if_false, Bool.false_eq_true] at h
          exact ih h fun l hl => hhere l (hl.trans (List.dropLast_prefix here))
      · -- descending: the location stepped into is a directory too
        simp only [hc, if_false] at h
        refine ih h fun l hl hne => ?_
        rcases List.prefix_concat_iff.1 hl with rfl | hl'
        · exact start_dir_of_reach h hd
        · exact hhere l hl' hne
    · simp [throw, throwThe, MonadExceptOf.throw] at h
    · simp [throw, throwThe, MonadExceptOf.throw] at h

/-- Every location above a directory that a path reaches is a directory. -/
theorem prefix_dir_of_reachPath {p : PathName} {d : List String} (h : w.reachPath p = .ok d)
    (hd : w.entryAt? d = some .directory) :
    ∀ l, l <+: d → l ≠ [] → w.entryAt? l = some .directory := by
  unfold reachPath at h
  split_ifs at h
  refine prefix_dir_of_reach h (fun l hl hne => ?_) hd
  -- the root is a directory, and nothing nonempty lies above it
  have hroot := start_dir_of_reach h hd
  cases hr : p.root <;> simp only [hr, origin, List.prefix_nil] at hl hroot ⊢
  · exact absurd hl hne
  all_goals
    rcases List.prefix_cons_iff.1 hl with rfl | ⟨_, rfl, -⟩ <;> simp_all

/-- Making the directories on a way that is open changes nothing. -/
theorem makeDirsFrom_of_reach : ∀ {here d : List String} {parts : List String},
    w.reach here parts = .ok d → w.entryAt? d = some .directory →
      w.makeDirsFrom here parts = (w, none) := by
  intro here d parts h hd
  induction parts generalizing here with
  | nil => rfl
  | cons c rest ih =>
    unfold reach at h
    unfold makeDirsFrom
    split at h
    · by_cases hc : c = ".."
      · by_cases hempty : here.isEmpty
        · simp [hc, hempty, throw, throwThe, MonadExceptOf.throw] at h
        · simp only [hc, hempty, if_true, if_false, Bool.false_eq_true] at h ⊢
          exact ih h
      · simp only [hc, if_false] at h ⊢
        rw [start_dir_of_reach h hd]
        exact ih h
    · simp [throw, throwThe, MonadExceptOf.throw] at h
    · simp [throw, throwThe, MonadExceptOf.throw] at h

/-- Making the directories of a path that reaches a directory changes nothing. -/
theorem createDirs_of_reachPath {p : PathName} {d : List String} (h : w.reachPath p = .ok d)
    (hd : w.entryAt? d = some .directory) : w.createDirs p = (w, none) := by
  unfold reachPath at h
  unfold createDirs
  split_ifs at h ⊢ with hnul hroot
  · exact absurd ((entryAt?_eq_directory _).1 (start_dir_of_reach h hd)).2 (by simpa using hroot)
  · rw [makeDirsFrom_of_reach h hd]
    rfl

/-- A file put no deeper than a location makes it no directory. -/
theorem isDir_put_of_length {loc l : List String} {c : Content α} (h : loc.length ≤ l.length) :
    (w.put loc c).isDir l = w.isDir l := by
  unfold put isDir
  split_ifs
  · simp only [List.any_map, Function.comp_def]
    congr 2
    funext f
    split_ifs with hf <;> simp [hf]
  · have hlen : ¬ l.length < loc.length := by omega
    simp [List.any_append, hlen]

/-- A location beside the one a file is put at keeps its entry. -/
theorem entryAt?_put_beside {loc l : List String} {c : Content α} (hne : l ≠ loc)
    (h : loc.length ≤ l.length) : (w.put loc c).entryAt? l = w.entryAt? l := by
  simp only [entryAt?, fileAt?_put, if_neg hne, isDir_put_of_length h]

/-- **A write into a directory that is there goes through**: under a plain name, with no
directory at the path or at its staging path, it puts the content at the path, leaving no
staging file. -/
theorem writeStaged_eq {p : PathName} {d : List String} {name : String} {c : Content α}
    (hd : w.reachPath p.parent = .ok d) (hdir : w.entryAt? d = some .directory)
    (hname : p.name? = some name) (hup : name ≠ "..") (hdot : name ≠ ".")
    (hnul : name.toList.contains '\x00' = false)
    (hthere : w.entryAt? (d ++ [name]) ≠ some .directory)
    (hstaging : w.entryAt? (d ++ [name ++ ".tmp"]) ≠ some .directory) :
    w.writeStaged p c =
      (((w.put (d ++ [name ++ ".tmp"]) c).unput (d ++ [name ++ ".tmp"])).put (d ++ [name]) c,
        none) := by
  have hnul' : (name ++ ".tmp").toList.contains '\x00' = false := by simpa using hnul
  have hst := reachPath_join (tmp_name_ne_up name) hnul' hd hdir
  have hk := keepsDirs_put (c := c) hstaging
  have hp : p.parent.join name = p := by
    obtain ⟨root, parts⟩ := p
    simp only [PathName.join, PathName.parent, PathName.mk.injEq, true_and]
    exact List.dropLast_append_getLast? _ hname
  have htarget := reachPath_of_keepsDirs hk (reachPath_join hup hnul hd hdir)
  rw [hp] at htarget
  have hlast : p.parts.getLast? = some name := hname
  have hne : d ++ [name] ≠ d ++ [name ++ ".tmp"] := by
    simp only [ne_eq, List.append_cancel_left_eq, List.cons.injEq, and_true]
    intro h
    have := congrArg String.length h
    simp at this
  have hopen : w.openWrite (p.parent.join (name ++ ".tmp")) c =
      .ok (w.put (d ++ [name ++ ".tmp"]) c) := by
    simp only [openWrite, hst]
    rfl
  have hmove : (w.put (d ++ [name ++ ".tmp"]) c).move (p.parent.join (name ++ ".tmp")) p =
      .ok (((w.put (d ++ [name ++ ".tmp"]) c).unput (d ++ [name ++ ".tmp"])).put (d ++ [name]) c) := by
    have hfile : (w.put (d ++ [name ++ ".tmp"]) c).entryAt? (d ++ [name ++ ".tmp"]) =
        some (.file c) := by simp [entryAt?]
    have hthere' : (w.put (d ++ [name ++ ".tmp"]) c).entryAt? (d ++ [name]) ≠ some .directory := by
      rwa [entryAt?_put_beside hne (by simp)]
    unfold move
    simp only [locate, reachPath_of_keepsDirs hk hst, Except.toOption, hfile, hlast,
      Option.some.injEq, hup, hdot, or_self, if_false, htarget]
    rfl
  unfold writeStaged
  rw [createDirs_of_reachPath hd hdir]
  simp only [hname, hopen, hmove]

/-- A write that succeeds keeps every directory. -/
theorem writeStaged_keepsDirs {p : PathName} {c : Content α} (h : w.writeStaged p c = (w', none)) :
    KeepsDirs w w' := by
  obtain ⟨w₁, dir, name, hm, -, hstaging, -, hthere, rfl⟩ := writeStaged_ok h
  have hk₁ : KeepsDirs w w₁ := by
    have := (createDirs_keeps (w := w) p.parent).1
    rwa [hm] at this
  have hput : (w₁.put (dir ++ [name ++ ".tmp"]) c).entryAt? (dir ++ [name ++ ".tmp"]) =
      some (.file c) := by simp [entryAt?]
  exact hk₁.trans ((keepsDirs_put hstaging).trans (keepsDirs_move hput hthere))

/-! ## Where files make directories -/

/-- A file after a put is the one put, or at the location of one before. -/
theorem mem_put_files {loc : List String} {c : Content α} {f : List String × Content α}
    (hf : f ∈ (w.put loc c).files) : f.1 = loc ∨ ∃ g ∈ w.files, g.1 = f.1 := by
  unfold put at hf
  split_ifs at hf
  · obtain ⟨g, hg, rfl⟩ := List.mem_map.1 hf
    split_ifs with h
    · exact .inl rfl
    · exact .inr ⟨g, hg, rfl⟩
  · rcases List.mem_append.1 hf with hf | hf
    · exact .inr ⟨f, hf, rfl⟩
    · exact .inl (by simp_all)

/-- A location is a directory after a file is put only if it was one, or lies above the file. -/
theorem isDir_of_isDir_put {loc l : List String} {c : Content α} (h : (w.put loc c).isDir l = true) :
    w.isDir l = true ∨ l <+: loc ∧ l ≠ loc := by
  rw [isDir_iff] at h ⊢
  rcases h with h | h | ⟨f, hf, hlen, htake⟩
  · exact .inl (.inl h)
  · exact .inl (.inr (.inl (by simpa using h)))
  · rcases mem_put_files hf with hloc | ⟨g, hg, hgf⟩
    · -- the file put is the one below
      rw [hloc] at hlen htake
      refine .inr ⟨htake ▸ List.take_prefix _ _, fun h => ?_⟩
      rw [h] at hlen
      exact lt_irrefl _ hlen
    · exact .inl (.inr (.inr ⟨g, hg, hgf ▸ hlen, hgf ▸ htake⟩))

/-- Removing a file makes no directory. -/
theorem isDir_of_isDir_unput {loc l : List String} (h : (w.unput loc).isDir l = true) :
    w.isDir l = true := by
  rw [isDir_iff] at h ⊢
  rcases h with h | h | ⟨f, hf, hlen, htake⟩
  · exact .inl h
  · exact .inr (.inl h)
  · exact .inr (.inr ⟨f, List.mem_of_mem_filter hf, hlen, htake⟩)

/-- A location that is no directory has no directory entry. -/
theorem entryAt?_ne_directory {l : List String} (h : w.isDir l = false) :
    w.entryAt? l ≠ some .directory := by
  rw [ne_eq, entryAt?_eq_directory, h]
  simp

end ItemRecommender.Workspace
