import ItemRecommender.Failure
import ItemRecommender.PathName
import ItemRecommender.Phase
import ItemRecommender.Setting
/-! # Configuration

    Everything one run needs. Settings are given by name; unknown names are ignored and missing
    ones take their defaults. Each field is read as its type (`Setting`) and checked against its
    bounds; all failing fields are reported together, in field order, and only a configuration
    whose fields all pass has its phase range checked.

    Fingerprints identify the settings a phase's output depends on: the resolved input path,
    boolean data and the split count for every phase; from phase 3 on also the resolved users
    file (or none) and the pruning bound; in phase 4 also the number of recommendations. -/

namespace ItemRecommender

/-- A validated configuration. -/
structure Config where
  inputPath : PathName
  outputPath : PathName
  tempDir : PathName
  usersFile : Option PathName
  numRecommendations : Int
  booleanData : Bool
  maxPrefsPerUser : Int
  startPhase : Phase
  endPhase : Phase
  resume : Bool
  workers : Int
  numSplits : Int
  numRecommendations_pos : 1 ≤ numRecommendations
  maxPrefsPerUser_pos : 1 ≤ maxPrefsPerUser
  phases_ordered : startPhase ≤ endPhase
  workers_pos : 1 ≤ workers
  numSplits_pos : 1 ≤ numSplits

/-- A rejected setting: the field it belongs to (none for the configuration as a whole), the
kind of error and its message. -/
structure FieldError where
  loc : List String
  kind : String
  message : String
  deriving DecidableEq, Repr

namespace Config

/-- The data directory under the installation directory. -/
def dataDir : List String := ["data"]

/-- Settings by name, the last one given winning. -/
def lookup (fields : List (String × Setting)) (name : String) : Option Setting :=
  (fields.reverse.find? (·.1 = name)).map Prod.snd

/-- Reads one field: its default when absent, else the setting read by `read` and checked. -/
def field {β : Type} (fields : List (String × Setting)) (name : String) (default : β)
    (read : Setting → Except SettingError β) : Except FieldError β :=
  match lookup fields name with
  | none => pure default
  | some s => match read s with
    | .ok v => pure v
    | .error e => throw ⟨[name], e.kind, e.message⟩

/-- An integer no less than `low`. -/
def atLeast (low : Int) (s : Setting) : Except SettingError {i : Int // low ≤ i} := do
  let i ← s.toInt
  if h : low ≤ i then pure ⟨i, h⟩
  else throw ⟨"greater_than_equal", s!"Input should be greater than or equal to {low}"⟩

/-- A phase number. -/
def phase (s : Setting) : Except SettingError Phase := do
  let i ← s.toInt
  if i < 0 then throw ⟨"greater_than_equal", "Input should be greater than or equal to 0"⟩
  match Phase.ofInt? i with
  | some p => pure p
  | none => throw ⟨"less_than_equal", "Input should be less than or equal to 4"⟩

/-- A path setting. -/
def path (s : Setting) : Except SettingError PathName := do
  pure (PathName.ofString (← s.toPathText))

/-- An optional path setting. -/
def optionalPath : Setting → Except SettingError (Option PathName)
  | .null => pure none
  | s => some <$> path s

/-- The errors among a list of outcomes. -/
def errorsOf {β : Type} (r : Except FieldError β) : List FieldError :=
  match r with
  | .error e => [e]
  | .ok _ => []

/-- The configuration given by named settings, or every error found. -/
def validate (fields : List (String × Setting)) : Except (List FieldError) Config :=
  let input := field fields "input_path" (PathName.installed (dataDir ++ ["preferences.csv"])) path
  let output := field fields "output_path"
    (PathName.installed (dataDir ++ ["recommendations.txt"])) path
  let temp := field fields "temp_dir" (PathName.installed (dataDir ++ ["tmp"])) path
  let users := field fields "users_file" none optionalPath
  let n := field fields "num_recommendations" ⟨10, by decide⟩ (atLeast 1)
  let boolean := field fields "boolean_data" false Setting.toBool
  let k := field fields "max_prefs_per_user" ⟨10, by decide⟩ (atLeast 1)
  let start := field fields "start_phase" Phase.itemIndex phase
  let stop := field fields "end_phase" Phase.aggregate phase
  let resume := field fields "resume" false Setting.toBool
  let workers := field fields "workers" ⟨1, by decide⟩ (atLeast 1)
  let splits := field fields "num_splits" ⟨4, by decide⟩ (atLeast 1)
  match input, output, temp, users, n, boolean, k, start, stop, resume, workers, splits with
  | .ok input, .ok output, .ok temp, .ok users, .ok n, .ok boolean, .ok k, .ok s, .ok e,
    .ok resume, .ok workers, .ok splits =>
    if ho : s ≤ e then
      .ok ⟨input, output, temp, users, n.1, boolean, k.1, s, e, resume, workers.1, splits.1, n.2,
        k.2, ho, workers.2, splits.2⟩
    else .error [⟨[], "value_error",
      s!"Value error, start_phase ({s.toNat}) must not exceed end_phase ({e.toNat})"⟩]
  | _, _, _, _, _, _, _, _, _, _, _, _ =>
    .error (errorsOf input ++ errorsOf output ++ errorsOf temp ++ errorsOf users ++ errorsOf n ++
      errorsOf boolean ++ errorsOf k ++ errorsOf start ++ errorsOf stop ++ errorsOf resume ++
      errorsOf workers ++ errorsOf splits)

/-- The path of a dataset under the temporary directory. -/
def datasetPath (c : Config) (name : String) : PathName := c.tempDir.join name

/-- The path of the state file. -/
def statePath (c : Config) : PathName := c.tempDir.join "pipeline_state.json"

/-- The text of a path resolved against the working directory. A path holding the NUL character
cannot be resolved. -/
def resolvedText (p : PathName) : Except Failure String :=
  if p.hasNul then throw (.refused .embeddedNull p.render none) else pure p.resolve.render

/-- The settings the output of phases up to `p` depends on, as a text. -/
def fingerprint (c : Config) (p : Phase) : Except Failure String := do
  let base := [← resolvedText c.inputPath, if c.booleanData then "True" else "False",
    toString c.numSplits]
  let pruning ← if 3 ≤ p.toNat then do
      let users ← match c.usersFile with
        | some u => resolvedText u
        | none => pure ""
      pure [users, toString c.maxPrefsPerUser]
    else pure []
  let ranking := if p.toNat = 4 then [toString c.numRecommendations] else []
  pure ("|".intercalate (base ++ pruning ++ ranking))

end Config

end ItemRecommender
