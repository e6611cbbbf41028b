import ItemRecommender.Decimal.Literal
import ItemRecommender.Phase.Parse
import ItemRecommender.Run
/-! # The command line

    The command line gives settings by options, each spelled in full (`--input`), by a prefix
    that fits one option alone (`--inp`), or by a one-letter spelling (`-n`). A value follows
    as the next argument, after `=` in the same argument, or right after a one-letter spelling
    (`-n5`). An argument that starts with `-` is an option, unless it is `-` alone, reads as a
    negative number, or holds a space; after `--` every argument is plain. An option given
    twice keeps its last value.

    Reading the arguments fails (status 2) on a prefix that fits several options, a missing or
    unreadable value, a value given to a switch, or a plain argument that no option takes; the
    usage option stops the reading at once (status 0). The log level must name a level, in
    capitals; otherwise the failure is not caught. A configuration that fails validation, or a
    run that stops in a phase, ends with status 1; a finished run with status 0. -/

namespace ItemRecommender

open ItemRecommender.Text

/-- What an option does with its value. -/
inductive OptionKind where
  /-- Asks for the usage text. -/
  | usage
  /-- Sets a switch; it takes no value. -/
  | switch
  /-- Takes a path. -/
  | path
  /-- Takes an integer literal. -/
  | integer
  /-- Takes a phase number or label. -/
  | phase
  /-- Takes any text. -/
  | text
  deriving DecidableEq, Repr

/-- An option of the command line: its spellings, the setting it gives and its kind. -/
structure CommandOption where
  spellings : List String
  setting : String
  kind : OptionKind
  deriving DecidableEq, Repr

/-- How an argument reads. -/
inductive Token where
  /-- An argument that is no option: a value, or a stray. -/
  | plain (text : String)
  /-- An option as spelled, with a value written into the same argument: after `=`, or right
  after a one-letter spelling. -/
  | option (o : CommandOption) (spelling : String) (attached : Option String)
  /-- An argument that looks like an option and names none. -/
  | unknown (text : String)
  /-- An argument from `--` on, which no option takes. -/
  | literal (text : String)
  deriving DecidableEq, Repr

/-- Why the arguments cannot be read. -/
inductive UsageError where
  /-- A prefix that fits several spellings. -/
  | ambiguous (arg : String) (fits : List String)
  /-- An option without its value. -/
  | missingValue (spelling : String)
  /-- A value its option cannot read. -/
  | badValue (spelling : String) (value : String)
  /-- A value given to an option that takes none. -/
  | unexpectedValue (spelling : String) (value : String)
  /-- Arguments that no option takes. -/
  | unrecognized (args : List String)
  deriving DecidableEq, Repr

/-- A value read from the command line. -/
inductive Given where
  | switch
  | path (text : String)
  | integer (i : Int)
  | phase (p : Phase)
  | text (s : String)
  deriving DecidableEq, Repr

/-- What the arguments ask for: the usage text, or settings in the order given together with the
arguments no option took. -/
inductive Reading where
  | usage
  | given (settings : List (String × Given)) (strays : List String)
  deriving DecidableEq, Repr

/-- The settings of one invocation: those for the configuration, the log level and the log
file. -/
structure Invocation where
  settings : List (String × Setting)
  logLevel : String
  logFile : Option PathName

/-- How a command line run ends: the working directory it leaves, and its exit status or the
failure that nothing catches. -/
structure Finish where
  files : Workspace
  status : Except Failure Nat

/-- Puts a setting in front of a reading. -/
def Reading.push (setting : String) (g : Given) : Reading → Reading
  | .usage => .usage
  | .given settings strays => .given ((setting, g) :: settings) strays

/-- Puts a stray argument in front of a reading. -/
def Reading.stray (s : String) : Reading → Reading
  | .usage => .usage
  | .given settings strays => .given settings (s :: strays)

/-- Whether an option takes a value. -/
def CommandOption.takesValue (o : CommandOption) : Bool :=
  match o.kind with
  | .usage | .switch => false
  | _ => true

/-- The setting a value gives the configuration. -/
def Given.setting : Given → Setting
  | .switch => .bool true
  | .path t => .text t
  | .integer i => .int i
  | .phase p => .int p.toNat
  | .text s => .text s

namespace CommandLine

/-- The options, in the order the usage text lists them. -/
def options : List CommandOption := [
  ⟨["-h", "--help"], "help", .usage⟩,
  ⟨["--input"], "input_path", .path⟩,
  ⟨["--output"], "output_path", .path⟩,
  ⟨["--temp-dir"], "temp_dir", .path⟩,
  ⟨["--users-file"], "users_file", .path⟩,
  ⟨["--num-recommendations", "-n"], "num_recommendations", .integer⟩,
  ⟨["--boolean-data"], "boolean_data", .switch⟩,
  ⟨["--max-prefs-per-user"], "max_prefs_per_user", .integer⟩,
  ⟨["--start-phase"], "start_phase", .phase⟩,
  ⟨["--end-phase"], "end_phase", .phase⟩,
  ⟨["--resume"], "resume", .switch⟩,
  ⟨["--workers"], "workers", .integer⟩,
  ⟨["--num-splits"], "num_splits", .integer⟩,
  ⟨["--log-level"], "log_level", .text⟩,
  ⟨["--log-file"], "log_file", .path⟩]

/-- Every spelling with its option. -/
def spellings : List (String × CommandOption) :=
  options.flatMap fun o => o.spellings.map fun s => (s, o)

/-- The option a spelling names. -/
def named? (s : String) : Option CommandOption :=
  (spellings.find? (·.1 = s)).map Prod.snd

/-- Whether an argument reads as a negative number: `-`, decimal digits, at most one point with
a digit after it, and at most a line feed at the end. -/
def isNegativeNumber (arg : List Char) : Bool :=
  let body := if arg.getLast? = some '\n' then arg.dropLast else arg
  match body with
  | '-' :: rest =>
    match rest.span isDecimal with
    | (whole, []) => !whole.isEmpty
    | (_, '.' :: frac) => !frac.isEmpty && frac.all isDecimal
    | _ => false
  | _ => false

/-- The text before the first `=` and the text after it, if there is one. -/
def splitValue (cs : List Char) : String × Option String :=
  match cutAt '=' cs with
  | [] | [_] => (String.ofList cs, none)
  | first :: rest => (String.ofList first, some ("=".intercalate (rest.map String.ofList)))

/-- The spellings an option-like argument may stand for. After `--` the text before `=` is a
prefix of the spelling; after a single `-`, the one-letter spelling is followed by its value. -/
def candidates (arg : List Char) : List (CommandOption × String × Option String) :=
  match arg with
  | '-' :: '-' :: _ =>
    let (pre, value) := splitValue arg
    (spellings.filter fun s => pre.isPrefixOf s.1).map fun s => (s.2, s.1, value)
  | _ =>
    let short := String.ofList (arg.take 2)
    spellings.filterMap fun s =>
      if s.1 = short then some (s.2, s.1, some (String.ofList (arg.drop 2)))
      else if (String.ofList arg).isPrefixOf s.1 then some (s.2, s.1, none)
      else none

/-- How one argument reads. -/
def classify (arg : String) : Except UsageError Token :=
  let cs := arg.toList
  if cs.head? ≠ some '-' then pure (.plain arg)
  else match named? arg with
  | some o => pure (.option o arg none)
  | none =>
    if cs.length = 1 then pure (.plain arg)
    else
      let (pre, value) := splitValue cs
      match value, named? pre with
      | some v, some o => pure (.option o pre (some v))
      | _, _ =>
        match candidates cs with
        | [(o, s, attached)] => pure (.option o s attached)
        | [] =>
          if isNegativeNumber cs || cs.contains ' ' then pure (.plain arg)
          else pure (.unknown arg)
        | many => throw (.ambiguous arg (many.map fun m => m.2.1))

/-- How the arguments read, one token each; `--` and every argument after it are literal. -/
def tokenize : List String → Except UsageError (List Token)
  | [] => pure []
  | "--" :: rest => pure (("--" :: rest).map .literal)
  | a :: rest => do pure ((← classify a) :: (← tokenize rest))

/-- The value an option reads from a text. -/
def convert (o : CommandOption) (spelling value : String) : Except UsageError Given :=
  match o.kind with
  | .path => pure (.path value)
  | .integer =>
    match Decimal.readIntLiteral? value.toList with
    | some i => pure (.integer i)
    | none => throw (.badValue spelling value)
  | .phase =>
    match Phase.parse value with
    | .ok p => pure (.phase p)
    | .error _ => throw (.badValue spelling value)
  | .text => pure (.text value)
  | .usage | .switch => throw (.unexpectedValue spelling value)

/-- Whether a spelling is one letter after a single `-`. -/
def isShort (spelling : String) : Bool :=
  match spelling.toList with
  | ['-', c] => c ≠ '-'
  | _ => false

/-- The options that a one-letter option without value, spelled `s`, and the letters after it
give: each further letter spells an option, and the first that takes a value takes the letters
after it, if any. -/
def letterRun (o : CommandOption) (s : String) :
    List Char → Except UsageError (List (CommandOption × String × Option String))
  | [] => pure [(o, s, none)]
  | c :: rest =>
    match named? (String.ofList ['-', c]) with
    | none => throw (.unexpectedValue s (String.ofList (c :: rest)))
    | some o' =>
      if o'.takesValue then
        pure [(o, s, none), (o', String.ofList ['-', c], if rest.isEmpty then none else some (String.ofList rest))]
      else do pure ((o, s, none) :: (← letterRun o' (String.ofList ['-', c]) rest))

/-- The options one option argument gives, each with the value written into the argument. A
value written after an option without value is an error, except after a one-letter spelling,
where it continues with more letters (`letterRun`). -/
def pieces (o : CommandOption) (s : String) :
    Option String → Except UsageError (List (CommandOption × String × Option String))
  | none => pure [(o, s, none)]
  | some v =>
    if o.takesValue then pure [(o, s, some v)]
    else if isShort s ∧ v ≠ "" then letterRun o s v.toList
    else throw (UsageError.unexpectedValue s v)

/-- Takes the tokens in order: each option takes its value from its own argument or from the
next plain one; a plain argument that no option takes is a stray, and so is every literal one.
The options of one argument are found, with their values, before any of them acts; the usage
option then ends the reading at once. -/
def consume : List Token → Except UsageError Reading
  | [] => pure (.given [] [])
  | .plain s :: rest => do pure ((← consume rest).stray s)
  | .unknown s :: rest => do pure ((← consume rest).stray s)
  | .literal s :: rest => do pure ((← consume rest).stray s)
  | .option o s attached :: .plain v :: after => do
    -- the last option of the argument takes the next plain argument when it needs a value
    let ps ← pieces o s attached
    match ps.getLast? with
    | some (o', s', none) =>
      if o'.takesValue then apply (ps.dropLast ++ [(o', s', some v)]) (consume after)
      else apply ps (consume (.plain v :: after))
    | _ => apply ps (consume (.plain v :: after))
  | .option o s attached :: rest => do
    let ps ← pieces o s attached
    match ps.getLast? with
    | some (o', s', none) =>
      if o'.takesValue then throw (UsageError.missingValue s') else apply ps (consume rest)
    | _ => apply ps (consume rest)
where
  /-- Lets the options of one argument act in order, in front of the reading of the rest. -/
  apply : List (CommandOption × String × Option String) → Except UsageError Reading →
      Except UsageError Reading
    | [], later => later
    | (o, s, value) :: more, later =>
      match o.kind, value with
      | .usage, _ => pure .usage
      | .switch, _ => do pure ((← apply more later).push o.setting .switch)
      | _, some v => do
        let g ← convert o s v
        pure ((← apply more later).push o.setting g)
      | _, none => throw (.missingValue s)

/-- The invocation the arguments ask for, or `none` for the usage text. -/
def read (args : List String) : Except UsageError (Option Invocation) := do
  match ← consume (← tokenize args) with
  | .usage => pure none
  | .given settings strays =>
    if !strays.isEmpty then throw (.unrecognized strays)
    let level := (settings.reverse.find? (·.1 = "log_level")).bind fun s =>
      match s.2 with
      | .text t => some t
      | _ => none
    let file := (settings.reverse.find? (·.1 = "log_file")).bind fun s =>
      match s.2 with
      | .path t => some (PathName.ofString t)
      | _ => none
    let forConfig := settings.filter fun s => s.1 ≠ "log_level" ∧ s.1 ≠ "log_file"
    pure (some ⟨forConfig.map fun s => (s.1, s.2.setting), level.getD "INFO", file⟩)

/-- The levels a log can be written at. -/
def logLevels : List String := ["TRACE", "DEBUG", "INFO", "SUCCESS", "WARNING", "ERROR", "CRITICAL"]

/-- Opens the log file for appending: makes the directories above it and an empty file where
none is. The directories made before a refusal stay. -/
def openLog (w : Workspace) : Option PathName → Workspace × Option Failure
  | none => (w, none)
  | some p =>
    match w.createDirs p.parent with
    | (w, some f) => (w, some f)
    | (w, none) =>
      match w.openRead p with
      | .ok _ => (w, none)
      | .error _ =>
        match w.openWrite p (.bytes []) with
        | .ok w => (w, none)
        | .error f => (w, some f)

/-- Runs the command line in a working directory. -/
def execute (args : List String) (w : Workspace) : Finish :=
  match read args with
  | .error _ => ⟨w, .ok 2⟩
  | .ok none => ⟨w, .ok 0⟩
  | .ok (some inv) =>
    let level := String.ofList (capitalize inv.logLevel.toList)
    if level ∉ logLevels then ⟨w, .error (.unknownLevel level)⟩
    else
      match openLog w inv.logFile with
      | (w, some f) => ⟨w, .error f⟩
      | (w, none) =>
        match Config.validate inv.settings with
        | .error _ => ⟨w, .ok 1⟩
        | .ok c =>
          let o := c.run w
          match o.result with
          | .ok _ => ⟨o.files, .ok 0⟩
          | .error (.halt _) => ⟨o.files, .ok 1⟩
          | .error (.fault f) => ⟨o.files, .error f⟩

end CommandLine

end ItemRecommender
