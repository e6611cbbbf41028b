import ItemRecommender.CommandLine
import ItemRecommender.DatasetFile
/-! # The command line program

    Runs the recommender on the files that its options name. The program reads each file a run
    may use (the input file, the users file, the state file, the four datasets, the output and
    the log file), runs the command line on them (`CommandLine.execute`), writes back the
    directories and files that the run made or changed, and exits with the run's status. The
    installation directory is the working directory. Only files are read: an input directory
    is not listed. -/

namespace ItemRecommender.Program

/-- The path on disk of a location. -/
def diskPath : List String → String
  | "/" :: rest => "/" ++ "/".intercalate rest
  | "<project>" :: rest => if rest.isEmpty then "." else "/".intercalate rest
  | [] => "."
  | loc => "/".intercalate loc

/-- The location of a path name, unless it climbs above where it starts. -/
def location? (p : PathName) : Option (List String) :=
  let r := p.resolve
  if r.up = 0 then some (Workspace.origin r.root ++ r.parts) else none

/-- The paths a run of the command line may read. -/
def readable (args : List String) : List PathName :=
  match CommandLine.read args with
  | .ok (some inv) =>
    match Config.validate inv.settings with
    | .ok c => [c.inputPath] ++ c.usersFile.toList ++ [c.statePath] ++
        (Phase.all.map c.outputOf) ++ inv.logFile.toList
    | .error _ => inv.logFile.toList
  | _ => []

/-- Reads the files at the given paths into a working directory. -/
def load (paths : List PathName) : IO Workspace :=
  paths.foldlM (fun w p => do
    match location? p with
    | none => pure w
    | some loc =>
      if (w.fileAt? loc).isSome then pure w
      else
        try
          let data ← IO.FS.readBinFile (diskPath loc)
          pure (w.put loc (DatasetFile.decode data.toList))
        catch _ => pure w) Workspace.empty

/-- Writes back the directories a run made and the files it made or changed. -/
def store (before after : Workspace) : IO Unit := do
  for d in after.dirs do
    if !before.dirs.contains d then IO.FS.createDirAll (diskPath d)
  for f in after.files do
    let data := DatasetFile.encode f.2
    let unchanged := match before.fileAt? f.1 with
      | some c => DatasetFile.encode c == data
      | none => false
    if !unchanged then
      IO.FS.createDirAll (diskPath f.1.dropLast)
      IO.FS.writeBinFile (diskPath f.1) (ByteArray.mk data.toArray)

end ItemRecommender.Program

open ItemRecommender in
/-- Runs the recommender with the given arguments. -/
def main (args : List String) : IO UInt32 := do
  let before ← Program.load (Program.readable args)
  let finish := CommandLine.execute args before
  Program.store before finish.files
  match finish.status with
  | .ok code =>
    if code = 2 then IO.eprintln "usage: item-recommend [options]; see --help"
    else if code = 0 && (match CommandLine.read args with | .ok none => true | _ => false) then
      IO.println ("usage: item-recommend [options]\noptions: " ++
        ", ".intercalate (CommandLine.options.map fun o => "/".intercalate o.spellings))
    pure code.toUInt32
  | .error f =>
    IO.eprintln s!"{f.kind}: {f.message}"
    pure 1
