import ItemRecommender.Text.Fields
/-! # Path names

    A path name as written: where it starts, and its components. It starts in the working
    directory, at `/`, at `//` (exactly two leading slashes are kept apart from one), or in the
    directory the program is installed in, written `<project>`. Writing a path name drops empty
    components and `.` components, keeps `..`, and writes a relative path with no components as
    `.`. A path name is resolved by letting each `..` cancel the component before it
    (`Resolved`). -/

namespace ItemRecommender

/-- Where a path name starts. -/
inductive PathRoot where
  | working
  | slash
  | doubleSlash
  | install
  deriving DecidableEq, Repr

/-- A path name: where it starts, and its components. -/
structure PathName where
  root : PathRoot
  parts : List String
  deriving DecidableEq, Repr

namespace PathName

/-- Whether a path name holds the NUL character. -/
def hasNul (p : PathName) : Bool := p.parts.any fun c => c.toList.contains '\x00'

/-- Whether a path name starts outside the working directory. -/
def isAbsolute (p : PathName) : Bool := p.root != .working

/-- The path name of a text. -/
def ofString (s : String) : PathName :=
  let cs := s.toList
  let root :=
    if cs.take 2 = ['/', '/'] ∧ cs.take 3 ≠ ['/', '/', '/'] then PathRoot.doubleSlash
    else if cs.head? = some '/' then .slash
    else .working
  let parts := ((Text.cutAt '/' cs).map String.ofList).filter fun c => c ≠ "" ∧ c ≠ "."
  ⟨root, parts⟩

/-- A path below the installation directory. -/
def installed (parts : List String) : PathName := ⟨.install, parts⟩

/-- The text of a path name. -/
def render (p : PathName) : String :=
  let body := "/".intercalate p.parts
  match p.root with
  | .working => if p.parts.isEmpty then "." else body
  | .slash => "/" ++ body
  | .doubleSlash => "//" ++ body
  | .install => if p.parts.isEmpty then "<project>" else "<project>/" ++ body

/-- The path name of an entry inside a directory. -/
def join (p : PathName) (name : String) : PathName := { p with parts := p.parts ++ [name] }

/-- The directory that a path name's last component sits in; a path with no components is its
own parent. -/
def parent (p : PathName) : PathName := { p with parts := p.parts.dropLast }

/-- The last component of a path name. -/
def name? (p : PathName) : Option String := p.parts.getLast?

end PathName

/-- A path resolved against the working directory: where it starts, how many steps it climbs
above that, and the components below. -/
structure Resolved where
  root : PathRoot
  up : Nat
  parts : List String
  deriving DecidableEq, Repr

/-- Lets each `..` cancel the component before it; `up` counts those that climb above the start,
and `down` holds the components below it, reversed. -/
def cancelUp : Nat → List String → List String → Nat × List String
  | up, down, [] => (up, down.reverse)
  | up, [], ".." :: rest => cancelUp (up + 1) [] rest
  | up, _ :: down, ".." :: rest => cancelUp up down rest
  | up, down, c :: rest => cancelUp up (c :: down) rest

/-- The directories above the working directory, outermost first: every run works in a fresh
directory of its own inside `/tmp`. -/
def workingParents : List String := ["tmp"]

/-- A path name resolved against the working directory. A path from `/` cannot climb above it,
and a path that climbs out of the working directory goes on from its parents (`workingParents`)
up to `/`. -/
def PathName.resolve (p : PathName) : Resolved :=
  let (up, parts) := cancelUp 0 [] p.parts
  match p.root with
  | .doubleSlash | .slash => ⟨.slash, 0, parts⟩
  | .working =>
    if up = 0 then ⟨.working, 0, parts⟩
    else ⟨.slash, 0, workingParents.take (workingParents.length + 1 - up) ++ parts⟩
  | .install => ⟨.install, up, parts⟩

/-- A path name with each `..` cancelling the component before it, as far as it can without
looking at the directories it names: a path from `/` cannot climb above it, and a relative path
keeps the `..` that climb above its start. -/
def PathName.normal (p : PathName) : PathName :=
  let (up, parts) := cancelUp 0 [] p.parts
  match p.root with
  | .working => ⟨.working, List.replicate up ".." ++ parts⟩
  | root => ⟨root, parts⟩

/-- The text of a resolved path; the root directory itself is `/`. -/
def Resolved.render (r : Resolved) : String :=
  let start := match r.root with
    | .working => "."
    | .slash | .doubleSlash => ""
    | .install => "<project>"
  let steps := String.join ((List.replicate r.up "..").map ("/" ++ ·)) ++
    String.join (r.parts.map ("/" ++ ·))
  if start.isEmpty && steps.isEmpty then "/" else start ++ steps

end ItemRecommender
