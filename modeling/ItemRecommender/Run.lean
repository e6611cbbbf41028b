import ItemRecommender.Config
import ItemRecommender.Preference.Reader
import ItemRecommender.Progress
import ItemRecommender.Recommendation.Store
import ItemRecommender.Object.Ranked
import ItemRecommender.Stream.Machine
/-! # Runs of the five phases

    A run takes the phases in order up to the end phase. A phase below the start phase is skipped
    when its output is there, and stops the run when it is not. Every later phase takes the
    fingerprint of the current settings, which fails the run when a path cannot be resolved;
    with resume on, a phase whose marker carries that fingerprint is skipped when its output is
    there.
    Every other phase starts: its marker and every later one are dropped and the progress is
    saved, then its work runs, and on success its marker is set and the progress saved again.
    A failure whose words cannot be written stops the run with the error of writing them.

    A phase's work reads the datasets of earlier phases from the temporary directory and writes
    its own there through a staging file; the last phase writes the recommendation text to the
    output path. A write refused part way leaves its staging file and the directories it made.
    The preferences are read once per run, by the first phase that needs them.

    A failure in a phase's work stops the run in that phase (`Halt`). Loading and saving the
    progress are no phase's work, so their failures stop the run as they are (`Stop.fault`).

    A run computes over doubles (`Config.run`); the same run over another number type
    (`Config.runWith`) takes its values from the doubles the files give (`Codec`). -/

namespace ItemRecommender

/-- What a run reports about a phase when it reaches it. -/
inductive Event where
  /-- The phase starts. -/
  | started (phase : Phase)
  /-- The phase lies below the start phase, and its output is there. -/
  | skippedBefore (phase : Phase)
  /-- The phase completed before under the same fingerprint, and its output is there. -/
  | skippedComplete (phase : Phase)
  deriving DecidableEq, Repr

/-- The words of an event. -/
def Event.text : Event → String
  | .started p => s!"start {p.toNat}"
  | .skippedBefore p => s!"skip {p.toNat} before"
  | .skippedComplete p => s!"skip {p.toNat} complete"

/-- Why a run stopped in a phase. -/
inductive Halt where
  /-- A phase below the start phase has no output for the start phase to build on. -/
  | missingOutput (phase start : Phase) (path : PathName)
  /-- The work of a phase failed. -/
  | failed (phase : Phase) (cause : Failure)
  deriving DecidableEq, Repr

namespace Halt

/-- The phase a run stopped in. -/
def phase : Halt → Phase
  | .missingOutput p _ _ | .failed p _ => p

/-- Why the phase stopped the run. -/
def reason : Halt → String
  | .missingOutput _ s path => s!"cannot start at phase {s.toNat}: output {path.render} is missing"
  | .failed _ f => s!"{f.kind}: {f.message}"

/-- The words of a stopped run. -/
def message (h : Halt) : String := s!"phase {h.phase.label} failed: {h.reason}"

end Halt

/-- How a run ends early: stopped in a phase, or failed outside every phase's work. -/
inductive Stop where
  | halt (h : Halt)
  | fault (f : Failure)
  deriving DecidableEq, Repr

namespace Config

/-- Where a phase's output lives: its dataset in the temporary directory, or the output path
for the last phase. -/
def outputOf (c : Config) (p : Phase) : PathName :=
  match p.dataset? with
  | some name => c.datasetPath name
  | none => c.outputPath

end Config

/-- How a run computes with a number type: how it takes the doubles a preference file gives,
how it hands its records to objects, which hold doubles, and what text its recommendations make
in the output file. -/
structure Codec (α : Type) where
  ofDouble : Float → α
  toDouble : α → Float
  text : List (Int × List (Recommendation α)) → String

/-- A run over doubles, the run of the command line: values as the file gives them, and the lines
of the recommendation file. -/
def Codec.double : Codec Float := ⟨id, id, recommendationText⟩

namespace Dataset

variable {α : Type}

/-- The item table a dataset holds. -/
def table? : Dataset α → Option ItemTable
  | .itemTable t => some t
  | _ => none

/-- The user vectors a dataset holds. -/
def vectors? : Dataset α → Option (List (Int × UserVector α))
  | .userVectors vs => some vs
  | _ => none

/-- The co-occurrence columns a dataset holds. -/
def columns? : Dataset α → Option (List (Int × Column α))
  | .columns cs => some cs
  | _ => none

/-- The rated columns a dataset holds. -/
def joined? : Dataset α → Option (List (Int × RatedColumn α))
  | .joined rs => some rs
  | _ => none

end Dataset

/-- A dataset as a phase finds it: the records a run wrote, or objects, written by a run that
worked on objects or by another program, with their heap. -/
inductive Stored (β : Type) where
  | records (b : β)
  | objects (heap : Object.Heap) (v : Object.Value)

/-- The failure of an operation on objects. -/
def objectFailure {α : Type} (r : Except Object.Raised α) : Except Failure α := r.mapError .raised

/-- The objects of a dataset stream, whose value must have a length. -/
def loadObjects (data : List UInt8) : Except Failure (Object.Heap × Object.Value) := do
  match Stream.load data with
  | .error f => throw (.raised f.toRaised)
  | .ok (v, h) =>
    let (_, h) ← objectFailure (v.length.run h)
    pure (h, v)

/-- The dataset of one kind in the file at a path. A file of bytes is read as a dataset stream.
A dataset of another kind, which no run puts there since each phase writes its own name, reads
as no records. -/
def readDataset {α β : Type} (pick : Dataset α → Option β) (w : Workspace α) (p : PathName) :
    Except Failure (Stored β) := do
  if !w.exists? p then throw (.datasetNotFound p.render)
  match ← w.openRead p with
  | .dataset (.objects h v) => pure (.objects h v)
  | .dataset d =>
    match pick d with
    | some b => pure (.records b)
    | none => pure (.objects ⟨#[.list []]⟩ (.ref 0))
  | .bytes data =>
    let (h, v) ← loadObjects data
    pure (.objects h v)

namespace Stored

/-- The objects of a stored dataset placed in a heap: the dataset's own, or its records made
into objects. -/
def place {β : Type} (embed : β → Object.Act Object.Value) (h : Object.Heap) :
    Stored β → Except Failure (Object.Heap × Object.Value)
  | .records b => do
    let (v, h) ← objectFailure ((embed b).run h)
    pure (h, v)
  | .objects h' v =>
    let (h, v) := h.append h' v
    pure (h, v)

end Stored

/-- What a run carries from phase to phase. -/
structure RunState (α : Type := Float) where
  files : Workspace α
  progress : Progress
  /-- The preferences, once a phase has read them. -/
  prefs : Option (List (Preference α))
  /-- The events so far, in order. -/
  events : List Event

namespace RunState

variable {α : Type} [Scalar α] [Inhabited α] (codec : Codec α) (c : Config)

/-- Records an event. -/
def note (s : RunState α) (e : Event) : RunState α := { s with events := s.events ++ [e] }

/-- The preferences of the run, read on first use. -/
def preferences (s : RunState α) : Except Failure (List (Preference α) × RunState α) :=
  match s.prefs with
  | some ps => pure (ps, s)
  | none => do
    let ps := (← readPreferences s.files c.inputPath c.booleanData).map
      (Preference.map codec.ofDouble)
    pure (ps, { s with prefs := some ps })

/-- The records of a phase's work on objects in a heap, as a dataset of objects. -/
def objectsDataset (h : Object.Heap) (work : Object.Act (List (Object.Value × Object.Value))) :
    Except Failure (Dataset α) := do
  let act : Object.Act Object.Value := do
    let records ← work
    let v ← Object.recordsValue records
    Object.checkWritable v
    pure v
  let (v, h) ← objectFailure (act.run h)
  pure (.objects h v)

/-- The user vectors of the second phase, from the item table as the phase finds it. -/
def vectorsFrom (prefs : List (Preference α)) : Stored ItemTable → Except Failure (Dataset α)
  | .records t => do pure (.userVectors (← buildUserVectors prefs t c.numSplits))
  | .objects h v => objectsDataset h (Object.userVectorsOf codec.toDouble prefs v c.numSplits)

/-- The co-occurrence columns of the third phase, from the user vectors as it finds them. -/
def columnsFrom : Stored (List (Int × UserVector α)) → Except Failure (Dataset α)
  | .records vs => do pure (.columns (← buildCooccurrence vs c.numSplits))
  | .objects h v => objectsDataset h (Object.columnsOf v c.numSplits)

/-- The joined columns of the fourth phase, from the columns and the user vectors as it finds
them: records if both are, objects otherwise. -/
def joinedFrom (users : Option (List Int)) :
    Stored (List (Int × Column α)) → Stored (List (Int × UserVector α)) → Except Failure (Dataset α)
  | .records cs, .records vs => do
    pure (.joined (← joinColumns cs vs c.maxPrefsPerUser users c.numSplits))
  | columns, vectors => do
    let (h, cv) ← columns.place (Object.columnObjects codec.toDouble) Object.Heap.empty
    let (h, vv) ← vectors.place (Object.vectorObjects codec.toDouble) h
    objectsDataset h (Object.joinedOf cv vv c.maxPrefsPerUser users c.numSplits)

/-- The recommendation text of the last phase, from the item table and the joined columns as it
finds them: from records if both are, from objects otherwise. -/
def textFrom : Stored ItemTable → Stored (List (Int × RatedColumn α)) → Except Failure String
  | .records t, .records rs => do
    pure (codec.text (← aggregate rs t c.numRecommendations c.numSplits))
  | table, joined => do
    let (h, tv) ← table.place Object.tableObjects Object.Heap.empty
    let (h, jv) ← joined.place (Object.joinedObjects codec.toDouble) h
    let act : Object.Act String := do
      Object.recommendationLines (← Object.recommendationsOf jv tv c.numRecommendations c.numSplits)
    let (text, _) ← objectFailure (act.run h)
    pure text

/-- What one phase writes at its output path, with the state after reading what it needs: the
preferences, read on first use, and the datasets of earlier phases. -/
def produce (s : RunState α) : Phase → Except Failure (Content α × RunState α)
  | .itemIndex => do
    let (prefs, s) ← s.preferences codec c
    pure (.dataset (.itemTable (← buildItemTable prefs c.numSplits)), s)
  | .userVectors => do
    let table ← readDataset Dataset.table? s.files (c.outputOf .itemIndex)
    let (prefs, s) ← s.preferences codec c
    pure (.dataset (← vectorsFrom codec c prefs table), s)
  | .cooccurrence => do
    let vectors ← readDataset Dataset.vectors? s.files (c.outputOf .userVectors)
    pure (.dataset (← columnsFrom c vectors), s)
  | .partialMultiply => do
    let users ← readUserIds s.files c.usersFile
    let columns ← readDataset Dataset.columns? s.files (c.outputOf .cooccurrence)
    let vectors ← readDataset Dataset.vectors? s.files (c.outputOf .userVectors)
    pure (.dataset (← joinedFrom codec c users columns vectors), s)
  | .aggregate => do
    let table ← readDataset Dataset.table? s.files (c.outputOf .itemIndex)
    let joined ← readDataset Dataset.joined? s.files (c.outputOf .partialMultiply)
    pure (.bytes (← textFrom codec c table joined).toUTF8.toList, s)

/-- Writes what a phase produced at its output path, through a staging file. -/
def store (s : RunState α) (p : Phase) (content : Content α) : RunState α × Option Failure :=
  let (w, fault) := s.files.writeStaged (c.outputOf p) content
  ({ s with files := w }, fault)

/-- The work of one phase: what it produces, written at its output path. -/
def work (s : RunState α) (p : Phase) : RunState α × Option Failure :=
  match s.produce codec c p with
  | .error f => (s, some f)
  | .ok (content, s) => s.store c p content

/-- Saves the progress to the state file. -/
def save (s : RunState α) : RunState α × Option Failure :=
  let (w, fault) := s.progress.write s.files c.statePath
  ({ s with files := w }, fault)

/-- A phase starts: it is noted, and its marker and every later one are dropped. -/
def begin (s : RunState α) (p : Phase) : RunState α :=
  { s.note (.started p) with progress := s.progress.invalidateFrom p }

/-- Runs one phase: drops its marker and the later ones and saves, does the work, then sets its
marker and saves again. -/
def runPhase (s : RunState α) (p : Phase) (fingerprint : String) : RunState α × Option Stop :=
  match (s.begin p).save c with
  | (s, some f) => (s, some (.fault f))
  | (s, none) =>
    match s.work codec c p with
    | (s, some f) =>
      match f.wordsFault? with
      | some g => (s, some (.fault g))
      | none => (s, some (.halt (.failed p f)))
    | (s, none) =>
      match ({ s with progress := s.progress.mark p fingerprint } : RunState α).save c with
      | (s, some f) => (s, some (.fault f))
      | (s, none) => (s, none)

end RunState

/-- Takes the phases in order from a list, up to the end phase: skips or runs each one, and stops
at the first that stops the run. -/
def runPhases {α : Type} [Scalar α] [Inhabited α] (codec : Codec α) (c : Config) :
    List Phase → RunState α → RunState α × Option Stop
  | [], s => (s, none)
  | p :: rest, s =>
    if c.endPhase < p then (s, none)
    else
      let present := s.files.exists? (c.outputOf p)
      if p < c.startPhase then
        if present then runPhases codec c rest (s.note (.skippedBefore p))
        else (s, some (.halt (.missingOutput p c.startPhase (c.outputOf p))))
      else
        match c.fingerprint p with
        | .error f => (s, some (.fault f))
        | .ok fingerprint =>
          if c.resume && s.progress.isComplete p fingerprint && present then
            runPhases codec c rest (s.note (.skippedComplete p))
          else
            match s.runPhase codec c p fingerprint with
            | (s, none) => runPhases codec c rest s
            | (s, some stop) => (s, some stop)

/-- How a run ends: the working directory it leaves, its events in order, and the output path
or why it stopped. -/
structure Outcome (α : Type := Float) where
  files : Workspace α
  events : List Event
  result : Except Stop PathName

/-- Runs the phases of a configuration in a working directory, over a number type, starting from
the progress in its state file. -/
def Config.runWith {α : Type} [Scalar α] [Inhabited α] (codec : Codec α) (c : Config)
    (w : Workspace α) : Outcome α :=
  match Progress.load w c.statePath with
  | .error f => ⟨w, [], .error (.fault f)⟩
  | .ok progress =>
    match runPhases codec c Phase.all ⟨w, progress, none, []⟩ with
    | (s, none) => ⟨s.files, s.events, .ok c.outputPath⟩
    | (s, some stop) => ⟨s.files, s.events, .error stop⟩

/-- Runs the phases of a configuration over doubles, as the command line does. -/
def Config.run (c : Config) (w : Workspace) : Outcome := c.runWith Codec.double w

end ItemRecommender
