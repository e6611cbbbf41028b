import ItemRecommender.Json
import ItemRecommender.Ledger
import ItemRecommender.Phase
import ItemRecommender.Setting
import ItemRecommender.Workspace
/-! # Progress of a run

    The progress of a run records, for each completed phase, the fingerprint of the settings it
    completed under. Markers keep the order in which they were first set. Starting a phase drops
    its marker and every later one; completing it sets its marker.

    Progress is kept in the state file as JSON, `{"phases": {number: fingerprint, ...}}`, pretty
    printed, markers in order. The file is read as extended JSON (`Json.Variant.extended`). A
    state file that is missing, is not such JSON, or does not have that shape gives fresh
    progress; a missing `phases` member means no marker, other members are
    ignored, and marker numbers are read as integer texts (`Setting.intOfText?`). -/

namespace ItemRecommender

/-- Completion markers: a fingerprint for each completed phase number. -/
structure Progress where
  marks : Ledger Int String

namespace Progress

/-- No phase completed. -/
def fresh : Progress := ⟨Ledger.empty⟩

/-- The completed phase numbers, ascending. -/
def completed (p : Progress) : List Int := p.marks.keys.mergeSort fun a b => decide (a ≤ b)

/-- Whether a phase completed under a fingerprint. -/
def isComplete (p : Progress) (phase : Phase) (fingerprint : String) : Bool :=
  p.marks.get? phase.toNat == some fingerprint

/-- Marks a phase completed under a fingerprint. -/
def mark (p : Progress) (phase : Phase) (fingerprint : String) : Progress :=
  ⟨p.marks.insert phase.toNat fingerprint⟩

/-- Drops the markers of a phase and of every later one. -/
def invalidateFrom (p : Progress) (phase : Phase) : Progress :=
  ⟨p.marks.filter fun k _ => decide (k < phase.toNat)⟩

/-- The text of the state file. -/
def render (p : Progress) : String :=
  Json.pretty 0 (.object [("phases", .object (p.marks.entries.map fun e =>
    (toString e.1, .string e.2)))])

/-- The progress a state file's text holds, if it has the right shape. -/
def ofJson? (j : Json) : Option Progress :=
  match j with
  | .object ms =>
    match (ms.reverse.find? (·.1 = "phases")).map Prod.snd with
    | none => some fresh
    | some (.object marks) => do
      let pairs ← marks.mapM fun m =>
        match Setting.intOfText? m.1, m.2 with
        | some k, .string fp => some (k, fp)
        | _, _ => none
      pure ⟨Ledger.ofList pairs⟩
    | some _ => none
  | _ => none

/-- The progress a state file's text holds; fresh when it is unreadable. -/
def ofText (text : String) : Progress :=
  ((Json.parseWith? .extended text).bind ofJson?).getD fresh

/-- The progress in the state file at a path: fresh when nothing is there. A state file that
cannot be opened or is not UTF-8 fails. -/
def load {α : Type} (w : Workspace α) (path : PathName) : Except Failure Progress := do
  if !w.exists? path then return fresh
  pure (ofText (← Workspace.decodeText (← w.openRead path)))

/-- Writes progress to the state file at a path, through a staging file. -/
def write {α : Type} (p : Progress) (w : Workspace α) (path : PathName) :
    Workspace α × Option Failure :=
  w.writeStaged path (.bytes p.render.toUTF8.toList)

/-- Writing progress as it ends: the working directory when the state file is written, or the
refusal that stopped it. -/
def save {α : Type} (p : Progress) (w : Workspace α) (path : PathName) :
    Except Failure (Workspace α) :=
  w.writeWhole path (.bytes p.render.toUTF8.toList)

end Progress

end ItemRecommender
