import ItemRecommender.Decimal.Literal
import ItemRecommender.Phase
import ItemRecommender.Object.Value
import ItemRecommender.Text.Quoted
import ItemRecommender.Text.Utf8
/-! # Failures

    Every way an operation of the library can fail, as a cause with its data. `Failure.message`
    words each cause, and `Failure.kind` names its class as the messages of a failed phase
    show it. -/

namespace ItemRecommender

open ItemRecommender.Text

/-- Why the file system refuses an operation on a path. -/
inductive FileFault where
  /-- A directory on the way does not exist. -/
  | noEntry
  /-- A directory was to be made where a file is. -/
  | fileInTheWay
  /-- A component on the way is a file, not a directory. -/
  | notDirectory
  /-- A file was to be read or written where a directory is. -/
  | isDirectory
  /-- The path holds the NUL character, which no file name can hold. -/
  | embeddedNull
  /-- A file was to be moved onto a path ending in `.` or `..`. -/
  | busy
  deriving DecidableEq, Repr

/-- The error number and words of a file system refusal. -/
def FileFault.describe : FileFault → String
  | .noEntry => "[Errno 2] No such file or directory"
  | .fileInTheWay => "[Errno 17] File exists"
  | .notDirectory => "[Errno 20] Not a directory"
  | .isDirectory => "[Errno 21] Is a directory"
  | .embeddedNull => "embedded null byte"
  | .busy => "[Errno 16] Device or resource busy"

/-- The class of a file system refusal. -/
def FileFault.kind : FileFault → String
  | .noEntry => "FileNotFoundError"
  | .fileInTheWay => "FileExistsError"
  | .notDirectory => "NotADirectoryError"
  | .isDirectory => "IsADirectoryError"
  | .embeddedNull => "ValueError"
  | .busy => "OSError"

/-- A cause of failure. Paths are given as they are shown. -/
inductive Failure where
  /-- The preference input does not exist. -/
  | inputNotFound (path : String)
  /-- The preference directory holds no input file. -/
  | noInputFiles (path : String)
  /-- The users file does not exist. -/
  | usersFileNotFound (path : String)
  /-- A phase's input dataset does not exist. -/
  | datasetNotFound (path : String)
  /-- The recommendation file does not exist. -/
  | recommendationsNotFound (path : String)
  /-- A file is not valid UTF-8. -/
  | undecodable (error : Utf8Error)
  /-- Reading a dataset stream, or an operation on the values it holds, raised an error. -/
  | raised (error : Object.Raised)
  /-- A preference line with too few or too many fields. -/
  | fieldCount (path : String) (line : Nat) (count : Nat) (text : String)
  /-- An id field that is not an integer; `column` names the field. -/
  | notAnInteger (path : String) (line : Nat) (column : String) (raw : String)
  /-- A missing (`none`) or non-numeric preference value. -/
  | badValue (path : String) (line : Nat) (raw : Option String)
  /-- A preference names an item that the item table does not know. -/
  | unknownItem (user item : Int)
  /-- A recommendation line of the wrong shape. -/
  | malformedLine (line : String)
  /-- Two co-occurrence columns for one item index. -/
  | duplicateColumn (index : Int)
  /-- Text that is not an integer literal. -/
  | notIntLiteral (text : String)
  /-- An integer literal of `count` digits, more than are read. -/
  | tooManyDigits (count : Nat)
  /-- Text that is not a real literal. -/
  | notFloatLiteral (text : String)
  /-- A phase number outside 0 to 4. -/
  | noSuchPhase (number : Int)
  /-- A phase name that names no phase; `text` as given. -/
  | unknownPhase (text : String)
  /-- A log level that does not exist, in capitals. -/
  | unknownLevel (name : String)
  /-- An index that the item table does not map. -/
  | missingIndex (index : Int)
  /-- An item id outside the signed 64-bit range. -/
  | idTooLarge
  /-- A partition count of zero. -/
  | zeroPartitions
  /-- A position outside a list: a negative partition count, or an empty heap. -/
  | outOfRange
  /-- The file system refused an operation on a path (and, for a move, its target). -/
  | refused (fault : FileFault) (path : String) (target : Option String)
  /-- A file was to be written at a path with no last component, shown as a path object. -/
  | emptyName (path : String)
  deriving DecidableEq, Repr

namespace Failure

/-- The class of a failure, as a failed phase reports it. -/
def kind : Failure → String
  | .inputNotFound _ | .noInputFiles _ | .usersFileNotFound _ | .datasetNotFound _
  | .recommendationsNotFound _ => "FileNotFoundError"
  | .undecodable _ => "UnicodeDecodeError"
  | .raised r => r.kind
  | .fieldCount .. | .notAnInteger .. | .badValue .. | .unknownItem .. | .malformedLine _ =>
    "InputConsistencyError"
  | .duplicateColumn _ => "InvariantViolationError"
  | .notIntLiteral _ | .tooManyDigits _ | .notFloatLiteral _ | .noSuchPhase _ | .unknownPhase _
  | .unknownLevel _ => "ValueError"
  | .missingIndex _ => "KeyError"
  | .idTooLarge => "OverflowError"
  | .zeroPartitions => "ZeroDivisionError"
  | .outOfRange => "IndexError"
  | .refused f _ _ => f.kind
  | .emptyName _ => "ValueError"

/-- The start of every message about a preference line. -/
def recordAt (path : String) (line : Nat) : String :=
  s!"Malformed record in {path} at line {line}: "

/-- The phase names a bad phase name is compared with. -/
def phaseNames : String :=
  "[" ++ ", ".intercalate (Phase.all.map fun p => quote p.label) ++ "]"

/-- The failure of reading a text as an integer. -/
def ofIntFault (text : String) : Decimal.IntFault → Failure
  | .malformed => .notIntLiteral text
  | .tooLong n => .tooManyDigits n

/-- The words of a failure. -/
def message : Failure → String
  | .inputNotFound p => s!"Input not found: {p}"
  | .noInputFiles p => s!"No input files under {p}"
  | .usersFileNotFound p => s!"Users file not found: {p}"
  | .datasetNotFound p => s!"Dataset not found at {p}. Run the phase that writes it first."
  | .recommendationsNotFound p => s!"Recommendations not found at {p}. Run the pipeline first."
  | .undecodable e => e.message
  | .raised r => r.message.shown
  | .fieldCount p n k t => recordAt p n ++ s!"expected 2 or 3 fields, got {k} in {quote t}"
  | .notAnInteger p n c r => recordAt p n ++ s!"{c}={quote r} is not an integer"
  | .badValue p n none => recordAt p n ++ "missing or non-numeric preference value nan"
  | .badValue p n (some r) => recordAt p n ++ s!"missing or non-numeric preference value {quote r}"
  | .unknownItem u i => s!"Preference of user {u} references unknown item {i}"
  | .malformedLine l => s!"Malformed recommendation line: {quote l}"
  | .duplicateColumn i => s!"Found two co-occurrence columns for item index {i}"
  | .notIntLiteral t => "invalid literal for int() with base 10: " ++ (quote t).take 200
  | .tooManyDigits n => "Exceeds the limit (" ++ toString Decimal.maxIntDigits ++
    " digits) for integer string conversion: value has " ++ toString n ++
    " digits; use sys.set_int_max_str_digits() to increase the limit"
  | .notFloatLiteral t => s!"could not convert string to float: {quote t}"
  | .noSuchPhase n => s!"{n} is not a valid Phase"
  | .unknownPhase t => s!"Unknown phase {quote t}; expected 0-4 or one of {phaseNames}"
  | .unknownLevel l => s!"Level '{l}' does not exist"
  | .missingIndex i => toString i
  | .idTooLarge => "Python int too large to convert to C long"
  | .zeroPartitions => "integer modulo by zero"
  | .outOfRange => "list index out of range"
  | .refused .embeddedNull _ _ => FileFault.embeddedNull.describe
  | .refused f p none => s!"{f.describe}: {quote p}"
  | .refused f p (some t) => s!"{f.describe}: {quote p} -> {quote t}"
  | .emptyName p => s!"PosixPath({quote p}) has an empty name"

/-- The error that writing a failure's words raises, when they cannot be written: such a
failure cannot be reported as the failure of a phase. -/
def wordsFault? : Failure → Option Failure
  | .raised ⟨_, .unwritable k m⟩ => some (.raised ⟨k, m⟩)
  | _ => none

end Failure

end ItemRecommender
