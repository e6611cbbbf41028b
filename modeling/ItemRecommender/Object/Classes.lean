import ItemRecommender.Object.Catalog
/-! # Classes whose objects a dataset holds

    Beyond the core containers, the objects a dataset holds belong to a few families of
    classes, and each family decides how its objects are made, compared, hashed and shown:

    * record classes with named fields (`recordClass?`): the pipeline's own records. A record
      is made from its field values in order, a missing field taking its default; two records of
      one class are equal when their fields are; a frozen record hashes as the tuple of its
      fields, and a record that can change cannot be hashed;
    * namespaces (`isNamespace`): objects that are nothing but their attributes, equal when
      their attributes are, never hashed;
    * the map wrapper (`mapWrapper`), whose one attribute `data` is the map it wraps;
    * errors (`isError`), which keep the arguments they were made with;
    * enumerations, whose members are values of their own;
    * all other classes, whose objects are equal only to themselves. -/

namespace ItemRecommender.Object

/-- The default of a record field: a value, or a new object of a class for each record. -/
inductive FieldDefault where
  | value (v : Value)
  | fresh (cls : Name)
  deriving Inhabited

/-- A record class: its fields with their defaults, and whether its records are frozen. -/
structure RecordClass where
  fields : List (String × Option FieldDefault)
  frozen : Bool
  deriving Inhabited

/-- The module of the pipeline's record classes. -/
def recordModule : String := "itemcf.pipeline_types"

/-- The record classes, by name. -/
def recordClass? (cls : Name) : Option RecordClass :=
  if cls.module = recordModule then
    match cls.name with
    | "Preference" =>
      some ⟨[("user_id", none), ("item_id", none), ("value", some (.value (.float 1.0)))], true⟩
    | "UserVector" =>
      some ⟨[("user_id", none), ("entries", some (.fresh (builtin "dict")))], false⟩
    | "VectorOrPref" =>
      some ⟨[("vector", some (.value .none)), ("user_id", some (.value .none)),
        ("value", some (.value .none))], true⟩
    | "VectorAndPrefs" => some ⟨[("vector", none), ("user_ids", none), ("values", none)], false⟩
    | "PartialScoreVector" =>
      some ⟨[("scores", some (.fresh (builtin "dict"))),
        ("rated", some (.value (.frozenset [] Layout.empty)))], false⟩
    | _ => none
  else if cls = ⟨"itemcf.runtime", "StageInput"⟩ then
    some ⟨[("records", none), ("mapper", none)], false⟩
  else none

/-- The class of namespaces made by keyword. -/
def simpleNamespace : Name := ⟨"types", "SimpleNamespace"⟩

/-- The class of namespaces of parsed arguments. -/
def argumentNamespace : Name := ⟨"argparse", "Namespace"⟩

/-- Whether objects of a class are namespaces. -/
def isNamespace (cls : Name) : Bool := cls = simpleNamespace || cls = argumentNamespace

/-- The class that wraps a map. -/
def mapWrapper : Name := ⟨"collections", "UserDict"⟩

/-- The classes of maps that remember insertion order in comparisons. -/
def orderedMap : Name := ⟨"collections", "OrderedDict"⟩

/-- The class of maps with a factory of missing values. -/
def defaultMap : Name := ⟨"collections", "defaultdict"⟩

/-- The error classes of the pipeline's package. -/
def packageErrors : List String := ["InputConsistencyError", "InvariantViolationError", "PipelineError"]

/-- Whether a class is an error class. -/
def isError (cls : Name) : Bool :=
  (cls.module = "builtins" ∧ (cls.name.endsWith "Error" ∨ cls.name.endsWith "Exception" ∨
    cls.name.endsWith "Warning" ∨ cls.name.endsWith "ExceptionGroup" ∨
    ["StopIteration", "StopAsyncIteration", "GeneratorExit", "KeyboardInterrupt", "SystemExit"].contains
      cls.name)) ∨
  (cls.module = "itemcf.errors" ∧ packageErrors.contains cls.name)

/-- The parent of each core error class but `BaseException`. -/
def errorParents : List (String × String) :=
  [("ArithmeticError", "Exception"), ("AssertionError", "Exception"),
    ("AttributeError", "Exception"), ("BaseExceptionGroup", "BaseException"),
    ("BlockingIOError", "OSError"), ("BrokenPipeError", "ConnectionError"),
    ("BufferError", "Exception"), ("BytesWarning", "Warning"), ("ChildProcessError", "OSError"),
    ("ConnectionAbortedError", "ConnectionError"), ("ConnectionError", "OSError"),
    ("ConnectionRefusedError", "ConnectionError"), ("ConnectionResetError", "ConnectionError"),
    ("DeprecationWarning", "Warning"), ("EOFError", "Exception"), ("EncodingWarning", "Warning"),
    ("Exception", "BaseException"), ("FileExistsError", "OSError"),
    ("FileNotFoundError", "OSError"), ("FloatingPointError", "ArithmeticError"),
    ("FutureWarning", "Warning"), ("GeneratorExit", "BaseException"),
    ("ImportError", "Exception"), ("ImportWarning", "Warning"),
    ("IndentationError", "SyntaxError"), ("IndexError", "LookupError"),
    ("InterruptedError", "OSError"), ("IsADirectoryError", "OSError"), ("KeyError", "LookupError"),
    ("KeyboardInterrupt", "BaseException"), ("LookupError", "Exception"),
    ("MemoryError", "Exception"), ("ModuleNotFoundError", "ImportError"),
    ("NameError", "Exception"), ("NotADirectoryError", "OSError"),
    ("NotImplementedError", "RuntimeError"), ("OSError", "Exception"),
    ("OverflowError", "ArithmeticError"), ("PendingDeprecationWarning", "Warning"),
    ("PermissionError", "OSError"), ("ProcessLookupError", "OSError"),
    ("RecursionError", "RuntimeError"), ("ReferenceError", "Exception"),
    ("ResourceWarning", "Warning"), ("RuntimeError", "Exception"), ("RuntimeWarning", "Warning"),
    ("StopAsyncIteration", "Exception"), ("StopIteration", "Exception"),
    ("SyntaxError", "Exception"), ("SyntaxWarning", "Warning"), ("SystemError", "Exception"),
    ("SystemExit", "BaseException"), ("TabError", "IndentationError"),
    ("TimeoutError", "OSError"), ("TypeError", "Exception"), ("UnboundLocalError", "NameError"),
    ("UnicodeDecodeError", "UnicodeError"), ("UnicodeEncodeError", "UnicodeError"),
    ("UnicodeError", "ValueError"), ("UnicodeTranslateError", "UnicodeError"),
    ("UnicodeWarning", "Warning"), ("UserWarning", "Warning"), ("ValueError", "Exception"),
    ("Warning", "Exception"), ("ZeroDivisionError", "ArithmeticError")]

/-- The subclasses of `OSError` that the system's error numbers stand for. -/
def errorNumberClasses : List (Int × String) :=
  [(1, "PermissionError"), (2, "FileNotFoundError"), (3, "ProcessLookupError"),
    (4, "InterruptedError"), (10, "ChildProcessError"), (11, "BlockingIOError"),
    (13, "PermissionError"), (17, "FileExistsError"), (20, "NotADirectoryError"),
    (21, "IsADirectoryError"), (32, "BrokenPipeError"), (103, "ConnectionAbortedError"),
    (104, "ConnectionResetError"), (108, "BrokenPipeError"), (110, "TimeoutError"),
    (111, "ConnectionRefusedError"), (114, "BlockingIOError"), (115, "BlockingIOError")]

/-- The class an error of the core is made as: an `OSError` made with two to five arguments
whose first is an error number of the system becomes the subclass of that number. -/
def madeErrorClass (cls : Name) (args : List Value) : Name :=
  if cls = builtin "OSError" ∧ 2 ≤ args.length ∧ args.length ≤ 5 then
    let number? : Option Int := match args.head? with
      | some (.int i) => some i
      | some (.bool b) => some (if b then 1 else 0)
      | _ => none
    match number?.bind fun i => errorNumberClasses.lookup i with
    | some sub => builtin sub
    | none => cls
  else cls

/-- The classes of named tuples a dataset may make, with the names of their fields in order. -/
def namedTupleFields? (cls : Name) : Option (List String) :=
  if cls.module = "urllib.parse" then
    match cls.name with
    | "DefragResult" | "DefragResultBytes" => some ["url", "fragment"]
    | "SplitResult" | "SplitResultBytes" => some ["scheme", "netloc", "path", "query", "fragment"]
    | "ParseResult" | "ParseResultBytes" =>
      some ["scheme", "netloc", "path", "params", "query", "fragment"]
    | _ => none
  else if cls = ⟨"decimal", "DecimalTuple"⟩ then some ["sign", "digits", "exponent"]
  else if cls = ⟨"statistics", "LinearRegression"⟩ then some ["slope", "intercept"]
  else if cls = ⟨"difflib", "Match"⟩ then some ["a", "b", "size"]
  else none

/-- The classes a class derives from directly, as far as instance checks need them: the parents
of errors, `int` of truth values and of the pipeline's phases, `dict` of the kinds of maps,
`float` of the array library's double, `tuple` of named tuples, and `object` of every other
class but `object`. -/
def Name.bases (n : Name) : List Name :=
  if n = builtin "object" then []
  else if n.module = "builtins" then
    if n.name = "bool" then [builtin "int"]
    else if n.name = "ExceptionGroup" then [builtin "BaseExceptionGroup", builtin "Exception"]
    else if n.name = "BaseException" then [builtin "object"]
    else [builtin ((errorParents.lookup n.name).getD "object")]
  else if n = ⟨"itemcf.errors", "InputConsistencyError"⟩ then [builtin "ValueError"]
  else if n.module = "itemcf.errors" ∧ packageErrors.contains n.name then [builtin "RuntimeError"]
  else if n = ⟨"itemcf.state", "Phase"⟩ then [builtin "int"]
  else if n = orderedMap ∨ n = defaultMap ∨ n = ⟨"collections", "Counter"⟩ then [builtin "dict"]
  else if n = ⟨"numpy", "float64"⟩ then [builtin "float"]
  else if (namedTupleFields? n).isSome then [builtin "tuple"]
  else [builtin "object"]

/-- Whether a class is `base` or derives from it, looking at most `fuel` levels up. -/
def Name.derivesFrom (base : Name) : Nat → Name → Bool
  | 0, _ => false
  | fuel + 1, n => n = base || (n.bases.any (Name.derivesFrom base fuel))

/-- Whether a class is an enumeration class. -/
def isEnumeration (cls : Name) : Bool :=
  match cls.kind? with
  | some (.cls _ "EnumType") => true
  | _ => false

/-- The members of the enumeration classes a dataset may make, with their values. -/
def enumerationMembers (cls : Name) : List (String × Value) :=
  if cls = slotClass then [("EXCLUDED", .str "excluded")] else []

end ItemRecommender.Object
