import ItemRecommender.Failure
import ItemRecommender.PathName
import ItemRecommender.Ranking
/-! # The working directory

    A run reads and writes files in one working directory, modelled as a value: the files with
    their contents and the directories, each at its location (components below the working
    directory, or below a root of its own for an absolute path). A file holds bytes, or one of
    the datasets a phase writes.

    A path name is looked up component by component, the way the operating system does: every
    component but the last must be an existing directory, and `..` leaves a directory for its
    parent; climbing above the working directory reaches nothing, and so does a path holding the NUL
    character. Each operation is refused with the fault the system reports (`FileFault`). A file is
    written whole: into a file beside it first, which is then moved onto the path
    (`writeStaged`); a write refused part way leaves what it did before, as the system does.

    The datasets hold numbers of one type, doubles unless another is named. -/

namespace ItemRecommender

/-- What one phase writes for the next ones: the records of its kind, or, when a phase worked on
objects that another program wrote, the list of its records as objects with their heap. -/
inductive Dataset (α : Type := Float) where
  | itemTable (t : ItemTable)
  | userVectors (vs : List (Int × UserVector α))
  | columns (cs : List (Int × Column α))
  | joined (rs : List (Int × RatedColumn α))
  | objects (heap : Object.Heap) (records : Object.Value)

/-- The content of a file. -/
inductive Content (α : Type := Float) where
  | bytes (data : List UInt8)
  | dataset (d : Dataset α)

/-- Files and directories by location. -/
structure Workspace (α : Type := Float) where
  files : List (List String × Content α)
  dirs : List (List String)

namespace Workspace

variable {α : Type}

/-- The empty working directory. -/
def empty : Workspace α := ⟨[], []⟩

/-- Whether a location is a directory: the working directory itself, one that was made, or one
that holds a file. -/
def isDir (w : Workspace α) (loc : List String) : Bool :=
  loc.isEmpty || w.dirs.contains loc ||
    w.files.any fun f => loc.length < f.1.length ∧ f.1.take loc.length = loc

/-- The content of the file at a location. -/
def fileAt? (w : Workspace α) (loc : List String) : Option (Content α) :=
  (w.files.find? (·.1 = loc)).map Prod.snd

/-- What a location holds. -/
inductive Entry (α : Type := Float) where
  | file (c : Content α)
  | directory

/-- What a location holds, if anything. -/
def entryAt? (w : Workspace α) (loc : List String) : Option (Entry α) :=
  match w.fileAt? loc with
  | some c => some (.file c)
  | none => if w.isDir loc then some .directory else none

/-- Follows components from a directory location to the location they name. Every component but
the last must lead through an existing directory: a missing one is `noEntry`, a file on the way
`notDirectory`. `..` climbs to the parent, and climbing above the working directory is `noEntry`. -/
def reach (w : Workspace α) : List String → List String → Except FileFault (List String)
  | here, [] => pure here
  | here, c :: rest =>
    match w.entryAt? here with
    | some .directory =>
      if c = ".." then
        if here.isEmpty then throw .noEntry else w.reach here.dropLast rest
      else w.reach (here ++ [c]) rest
    | some (.file _) => throw .notDirectory
    | none => throw .noEntry

/-- The location a path name starts from: the working directory, or a root of its own. A root
other than the working directory is a directory only while something lies below it. -/
def origin : PathRoot → List String
  | .working => []
  | .slash | .doubleSlash => ["/"]
  | .install => ["<project>"]

/-- The location a path name reaches here; a path holding the NUL character reaches nothing. -/
def reachPath (w : Workspace α) (p : PathName) : Except FileFault (List String) :=
  if p.hasNul then throw .embeddedNull else w.reach (origin p.root) p.parts

/-- The location a path name names here, if the way to it is open. -/
def locate (w : Workspace α) (p : PathName) : Option (List String) :=
  (w.reachPath p).toOption

/-- Whether a path names an existing file or directory. -/
def exists? (w : Workspace α) (p : PathName) : Bool :=
  match w.locate p with
  | some loc => (w.entryAt? loc).isSome
  | none => false

/-- The content of the file a path names: a directory there is `isDirectory`, nothing there
`noEntry`. -/
def openRead (w : Workspace α) (p : PathName) : Except Failure (Content α) :=
  match w.reachPath p with
  | .error f => throw (.refused f p.render none)
  | .ok loc =>
    match w.entryAt? loc with
    | some (.file c) => pure c
    | some .directory => throw (.refused .isDirectory p.render none)
    | none => throw (.refused .noEntry p.render none)

/-- Puts a file at a location, replacing the file there. -/
def put (w : Workspace α) (loc : List String) (c : Content α) : Workspace α :=
  if (w.fileAt? loc).isSome then
    { w with files := w.files.map fun f => if f.1 = loc then (loc, c) else f }
  else { w with files := w.files ++ [(loc, c)] }

/-- Removes the file at a location. -/
def unput (w : Workspace α) (loc : List String) : Workspace α :=
  { w with files := w.files.filter fun f => f.1 ≠ loc }

/-- Makes a directory at each step below a location along components: a directory on the way is
kept, a missing one is made, and a file on the way refuses (`fileInTheWay` when it stands at the
end, `notDirectory` before it). The directories made before a refusal stay. -/
def makeDirsFrom (w : Workspace α) : List String → List String → Workspace α × Option FileFault
  | _, [] => (w, none)
  | here, c :: rest =>
    if c = ".." then
      if here.isEmpty then (w, some .noEntry) else w.makeDirsFrom here.dropLast rest
    else
      let loc := here ++ [c]
      match w.entryAt? loc with
      | some .directory => w.makeDirsFrom loc rest
      | some (.file _) => (w, some (if rest.isEmpty then .fileInTheWay else .notDirectory))
      | none => ({ w with dirs := w.dirs ++ [loc] } : Workspace α).makeDirsFrom loc rest

/-- Makes a directory and every missing one above it; a directory already there is kept. A
refusal names the whole path, and the directories made before it stay. -/
def createDirs (w : Workspace α) (p : PathName) : Workspace α × Option Failure :=
  let refuse := fun (f : FileFault) => Failure.refused f p.render none
  if p.hasNul then (w, some (refuse .embeddedNull))
  else if !w.isDir (origin p.root) then (w, some (refuse .noEntry))
  else
    let (w, fault) := w.makeDirsFrom (origin p.root) p.parts
    (w, fault.map refuse)

/-- Making directories as it ends: the working directory when every directory is there, or the
refusal that stopped it. -/
def makeDirs (w : Workspace α) (p : PathName) : Except Failure (Workspace α) :=
  match w.createDirs p with
  | (w, none) => pure w
  | (_, some f) => throw f

/-- Opens a file for writing and writes it whole: the directory above must exist, and a
directory at the path refuses. -/
def openWrite (w : Workspace α) (p : PathName) (c : Content α) : Except Failure (Workspace α) :=
  match w.reachPath p with
  | .error f => throw (.refused f p.render none)
  | .ok loc =>
    match w.entryAt? loc with
    | some .directory => throw (.refused .isDirectory p.render none)
    | _ => pure (w.put loc c)

/-- Moves a file onto a path, replacing a file there; a directory there refuses, and so does a
target whose last component is `.` or `..` once the directory above it is reached. -/
def move (w : Workspace α) (source target : PathName) : Except Failure (Workspace α) := do
  let refuse := fun (f : FileFault) => Failure.refused f source.render (some target.render)
  let some here := w.locate source | throw (refuse .noEntry)
  let some (.file c) := w.entryAt? here | throw (refuse .noEntry)
  if target.parts.getLast? = some ".." ∨ target.parts.getLast? = some "." then
    match w.reachPath ⟨target.root, target.parts.dropLast⟩ with
    | .error f => throw (refuse f)
    | .ok _ => throw (refuse .busy)
  match w.reachPath target with
  | .error f => throw (refuse f)
  | .ok there =>
    match w.entryAt? there with
    | some .directory => throw (refuse .isDirectory)
    | _ => pure ((w.unput here).put there c)

/-- Writes a file whole through a staging file: makes the directories above it, writes the
content beside it under the name with `.tmp` added, and moves that onto the path. A refusal stops
the write where it is: the directories made and the staging file written before it stay. -/
def writeStaged (w : Workspace α) (p : PathName) (c : Content α) : Workspace α × Option Failure :=
  match w.createDirs p.parent with
  | (w, some f) => (w, some f)
  | (w, none) =>
    match p.name? with
    | none => (w, some (.emptyName p.render))
    | some name =>
      let staging := p.parent.join (name ++ ".tmp")
      match w.openWrite staging c with
      | .error f => (w, some f)
      | .ok w =>
        match w.move staging p with
        | .error f => (w, some f)
        | .ok w => (w, none)

/-- A write through a staging file as it ends: the working directory it leaves when it succeeds,
or the refusal that stopped it. -/
def writeWhole (w : Workspace α) (p : PathName) (c : Content α) : Except Failure (Workspace α) :=
  match w.writeStaged p c with
  | (w, none) => pure w
  | (_, some f) => throw f

/-- Sets up a file for a test of the library: makes the directories above it and puts it there,
leaving the workspace as it is where a file or directory is in the way. -/
def write (w : Workspace α) (p : PathName) (c : Content α) : Workspace α :=
  match w.makeDirs p.parent with
  | .error _ => w
  | .ok w' =>
    match w'.reachPath p with
    | .ok loc =>
      match w'.entryAt? loc with
      | some .directory => w
      | _ => w'.put loc c
    | .error _ => w

/-- Sets up a text file, as UTF-8. -/
def writeText (w : Workspace α) (p : PathName) (text : String) : Workspace α :=
  w.write p (.bytes text.toUTF8.toList)

/-- Removes the file a path names, or the directory and everything below it. -/
def delete (w : Workspace α) (p : PathName) : Workspace α :=
  match w.locate p with
  | none => w
  | some loc =>
    let below := fun (l : List String) => l.take loc.length = loc
    if loc.isEmpty then w
    else { files := w.files.filter fun f => !below f.1, dirs := w.dirs.filter fun d => !below d }

/-- The files directly inside a directory, as names with contents, in order of name. -/
def filesIn (w : Workspace α) (loc : List String) : List (String × Content α) :=
  let inside := w.files.filterMap fun f =>
    if f.1.length = loc.length + 1 ∧ f.1.take loc.length = loc then
      f.1.getLast?.map fun n => (n, f.2)
    else none
  inside.mergeSort fun a b => decide (a.1 ≤ b.1)

/-- The text of a file's bytes, read as UTF-8. A dataset file starts with the byte `0x80`. -/
def decodeText (c : Content α) : Except Failure String :=
  match c with
  | .bytes data =>
    match Text.decodeUtf8 data with
    | .ok cs => pure (String.ofList cs)
    | .error e => throw (.undecodable e)
  | .dataset _ => throw (.undecodable ⟨0, 1, 0x80, .invalidStart⟩)

end Workspace

end ItemRecommender
