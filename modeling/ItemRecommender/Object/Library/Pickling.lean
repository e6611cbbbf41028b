import ItemRecommender.Object.Library.Codecs
import ItemRecommender.Object.Classes
/-! # Writing dataset streams

    A value is written as the instructions that rebuild it, for one of the stream versions
    `0` to `5`. Version `0` writes text arguments ended by line feeds; later versions write
    binary arguments, version `2` adds short tuples and compact integers, `3` byte strings,
    `4` sets, frozen sets and globals named by two texts on the stack, `5` byte arrays.

    * Atoms: `None`, booleans, integers (the shortest form that holds them) and floats (eight
      bytes, most significant first; text in version `0`).
    * Texts and byte strings are written whole; before version `3` a byte string is rebuilt by
      encoding its bytes read as Latin-1 text.
    * Lists, maps, sets and frozen sets are made empty, remembered, then filled in batches of a
      thousand; a tuple is written after its items. Before version `4` a set is rebuilt from a
      list of its members.
    * Any other object is written as the call that makes it again: its class and arguments,
      then the state set on the new object.

    Every object but an atom is remembered in the memo as it is written, and an object met
    again is fetched from there. Identity is what the memo compares: containers are one object
    per cell, a text of at most one Latin-1 character is a single shared object, and so are the
    empty byte string and a name of an attribute or a global; other texts, byte strings and
    tuples are new objects each time. Before version `3` the names of globals are written as their older names. From
    version `4` the instructions after the version are one frame, with its length in front,
    when it holds four bytes or more. -/

namespace ItemRecommender.Object

open ItemRecommender.Text

/-- What the memo tells objects apart by. -/
inductive Identity where
  | address (a : Nat)
  | text (s : String)
  | octets (bs : List UInt8)
  | global (n : Name)
  deriving DecidableEq

/-- The state of writing a stream: the version, whether old names are written, the memo with
the number of entries it has taken, and the bytes written so far. -/
structure Writer where
  protocol : Nat
  oldNames : Bool
  memo : List (Identity × Nat)
  count : Nat
  out : Array UInt8

/-- Writing a stream. -/
abbrev Write := StateT Writer (Except Raised)

/-- The bytes of a text of code points below 256. -/
def latinBytes (s : String) : List UInt8 := s.toList.map fun c => c.toNat.toUInt8

/-- Writes bytes. -/
def emit (bs : List UInt8) : Write Unit :=
  modify fun w => { w with out := w.out ++ bs.toArray }

/-- The version being written. -/
def protocolNow : Write Nat := do pure (← get).protocol

/-- Remembers the object just written, under its identity if it has one that can recur. -/
def remember (key : Option Identity) : Write Unit := do
  let w ← get
  let i := w.count
  set { w with count := i + 1, memo := match key with
    | some k => (k, i) :: w.memo
    | none => w.memo }
  if 4 ≤ w.protocol then emit [0x94]
  else if w.protocol = 0 then emit (latinBytes ("p" ++ toString i ++ "\n"))
  else if i < 256 then emit [0x71, i.toUInt8]
  else emit (0x72 :: littleEndianBytes 4 i)

/-- Fetches the object remembered at an index. -/
def fetchMemo (i : Nat) : Write Unit := do
  if (← protocolNow) = 0 then emit (latinBytes ("g" ++ toString i ++ "\n"))
  else if i < 256 then emit [0x68, i.toUInt8]
  else emit (0x6A :: littleEndianBytes 4 i)

/-- Fetches an object from the memo if it is there: whether it was. -/
def recalled (key : Option Identity) : Write Bool := do
  match key with
  | some k =>
    match (← get).memo.lookup k with
    | some i => do fetchMemo i; pure true
    | none => pure false
  | none => pure false

/-- Raises an error while writing. -/
def refuse {α : Type} (e : Raised) : Write α := throw e

/-- Runs a computation that may fail while writing. -/
def liftRaised {α : Type} (r : Except Raised α) : Write α :=
  match r with
  | .ok a => pure a
  | .error e => throw e

/-- The identity of a text: a shared object when it is a name or at most one Latin-1
character. -/
def textIdentity (shared : Bool) (s : String) : Option Identity :=
  if shared ∨ (s.length ≤ 1 ∧ s.all fun c => codePoint c < 256) then some (.text s) else none

/-- The integer as the fewest bytes of two's complement, least significant first; zero is no
bytes. -/
def signedBytes (i : Int) : List UInt8 :=
  if i = 0 then []
  else
    let width := (i.natAbs.log2 + 1) / 8 + 1
    let v : Nat := if 0 ≤ i then i.toNat else (Int.ofNat (Nat.pow 256 width) + i).toNat
    let bs := littleEndianBytes width v
    let last := bs.getD (width - 1) 0
    let before := bs.getD (width - 2) 0
    if i < 0 ∧ 1 < width ∧ last = 0xFF ∧ before &&& 0x80 ≠ 0 then bs.take (width - 1) else bs

/-- Writes an integer. -/
def writeInt (h : Heap) (i : Int) : Write Unit := do
  let p ← protocolNow
  if -Int.ofNat (Nat.pow 2 31) ≤ i ∧ i < Int.ofNat (Nat.pow 2 31) then
    if p = 0 then emit (latinBytes ("I" ++ toString i ++ "\n"))
    else if 0 ≤ i ∧ i ≤ 0xFF then emit [0x4B, i.toNat.toUInt8]
    else if 0 ≤ i ∧ i ≤ 0xFFFF then emit (0x4D :: littleEndianBytes 2 i.toNat)
    else emit (0x4A :: littleEndianBytes 4 (i % Int.ofNat (Nat.pow 2 32)).toNat)
  else if 2 ≤ p then
    let bs := signedBytes i
    if bs.length < 256 then emit (0x8A :: bs.length.toUInt8 :: bs)
    else emit (0x8B :: littleEndianBytes 4 bs.length ++ bs)
  else do
    let digits ← liftRaised ((Value.int i).repr h)
    emit (latinBytes ("L" ++ digits ++ "L\n"))

/-- Writes a float. -/
def writeFloat (h : Heap) (x : Float) : Write Unit := do
  if (← protocolNow) = 0 then
    emit (latinBytes ("F" ++ (← liftRaised ((Value.float x).repr h)) ++ "\n"))
  else emit (0x47 :: (littleEndianBytes 8 x.toBits.toNat).reverse)

/-- A text as version `0` writes it: a code point beyond 16 bits as `\U` and eight hexadecimal
digits; one beyond 8 bits, the backslash, NUL, line feed, carriage return and `0x1A` as `\u`
and four; every other one as its byte. -/
def rawEscaped (s : String) : List UInt8 :=
  s.toList.flatMap fun c =>
    let n := codePoint c
    if 0x10000 ≤ n then latinBytes ("\\U" ++ String.ofList (Text.hexDigits 8 n))
    else if 256 ≤ n ∨ n = 0x5C ∨ n = 0 ∨ n = 0x0A ∨ n = 0x0D ∨ n = 0x1A then
      latinBytes ("\\u" ++ String.ofList (Text.hexDigits 4 n))
    else [n.toUInt8]

/-- Writes a text; `shared` marks a name, which is one object wherever it appears. -/
def writeText (shared : Bool) (s : String) : Write Unit := do
  let key := textIdentity shared s
  if ← recalled key then return
  let p ← protocolNow
  if p = 0 then emit (0x56 :: rawEscaped s ++ [0x0A])
  else
    let bs ← liftRaised (Encoding.utf8.encodeWith .passSurrogates s)
    if bs.length ≤ 0xFF ∧ 4 ≤ p then emit (0x8C :: bs.length.toUInt8 :: bs)
    else emit (0x58 :: littleEndianBytes 4 bs.length ++ bs)
  remember key

/-- The older name of a global, for versions before `3`: a few functions and classes moved or
were renamed, and some modules were renamed. -/
def olderName (n : Name) : Name :=
  let systemErrors := ["BrokenPipeError", "ChildProcessError", "ConnectionAbortedError",
    "ConnectionError", "ConnectionRefusedError", "ConnectionResetError", "FileExistsError",
    "FileNotFoundError", "InterruptedError", "IsADirectoryError", "NotADirectoryError",
    "PermissionError", "ProcessLookupError", "TimeoutError"]
  let sameErrors := ["ArithmeticError", "AssertionError", "AttributeError", "BaseException",
    "BufferError", "BytesWarning", "DeprecationWarning", "EOFError", "EnvironmentError",
    "Exception", "FloatingPointError", "FutureWarning", "GeneratorExit", "IOError",
    "ImportError", "ImportWarning", "IndentationError", "IndexError", "KeyError",
    "KeyboardInterrupt", "LookupError", "MemoryError", "NameError", "NotImplementedError",
    "OSError", "OverflowError", "PendingDeprecationWarning", "ReferenceError", "RuntimeError",
    "RuntimeWarning", "StopIteration", "SyntaxError", "SyntaxWarning", "SystemError",
    "SystemExit", "TabError", "TypeError", "UnboundLocalError", "UnicodeDecodeError",
    "UnicodeEncodeError", "UnicodeError", "UnicodeTranslateError", "UnicodeWarning",
    "UserWarning", "ValueError", "Warning", "ZeroDivisionError"]
  let renamed : List (Name × Name) := [
    (⟨"_functools", "reduce"⟩, ⟨"__builtin__", "reduce"⟩),
    (⟨"functools", "reduce"⟩, ⟨"__builtin__", "reduce"⟩),
    (⟨"builtins", "chr"⟩, ⟨"__builtin__", "unichr"⟩),
    (⟨"builtins", "filter"⟩, ⟨"itertools", "ifilter"⟩),
    (⟨"builtins", "int"⟩, ⟨"__builtin__", "long"⟩),
    (⟨"builtins", "map"⟩, ⟨"itertools", "imap"⟩),
    (⟨"builtins", "range"⟩, ⟨"__builtin__", "xrange"⟩),
    (⟨"builtins", "str"⟩, ⟨"__builtin__", "unicode"⟩),
    (⟨"builtins", "zip"⟩, ⟨"itertools", "izip"⟩),
    (⟨"builtins", "ModuleNotFoundError"⟩, ⟨"exceptions", "ImportError"⟩),
    (⟨"collections", "UserDict"⟩, ⟨"UserDict", "IterableUserDict"⟩),
    (⟨"collections", "UserList"⟩, ⟨"UserList", "UserList"⟩),
    (⟨"collections", "UserString"⟩, ⟨"UserString", "UserString"⟩),
    (⟨"itertools", "filterfalse"⟩, ⟨"itertools", "ifilterfalse"⟩),
    (⟨"itertools", "zip_longest"⟩, ⟨"itertools", "izip_longest"⟩),
    (⟨"sys", "intern"⟩, ⟨"__builtin__", "intern"⟩),
    (⟨"urllib.parse", "quote"⟩, ⟨"urllib", "quote"⟩),
    (⟨"urllib.parse", "quote_plus"⟩, ⟨"urllib", "quote_plus"⟩),
    (⟨"urllib.parse", "unquote"⟩, ⟨"urllib", "unquote"⟩),
    (⟨"urllib.parse", "unquote_plus"⟩, ⟨"urllib", "unquote_plus"⟩),
    (⟨"urllib.parse", "urlencode"⟩, ⟨"urllib", "urlencode"⟩)]
  let modules : List (String × String) := [
    ("_bz2", "bz2"), ("_dbm", "dbm"), ("_dummy_thread", "dummy_thread"),
    ("_functools", "functools"), ("_gdbm", "gdbm"), ("_markupbase", "markupbase"),
    ("_pickle", "pickle"), ("_thread", "thread"), ("builtins", "__builtin__"),
    ("collections.abc", "_abcoll"), ("configparser", "ConfigParser"), ("copyreg", "copy_reg"),
    ("dbm", "anydbm"), ("dbm.bsd", "dbhash"), ("dbm.dumb", "dumbdbm"), ("dbm.gnu", "gdbm"),
    ("dbm.ndbm", "dbm"), ("html.entities", "htmlentitydefs"), ("html.parser", "HTMLParser"),
    ("http.client", "httplib"), ("http.cookiejar", "cookielib"), ("http.cookies", "Cookie"),
    ("http.server", "BaseHTTPServer"), ("queue", "Queue"), ("reprlib", "repr"),
    ("socketserver", "SocketServer"), ("subprocess", "commands"),
    ("test.support", "test.test_support"), ("tkinter", "Tkinter"),
    ("tkinter.colorchooser", "tkColorChooser"), ("tkinter.commondialog", "tkCommonDialog"),
    ("tkinter.constants", "Tkconstants"), ("tkinter.dialog", "Dialog"), ("tkinter.dnd", "Tkdnd"),
    ("tkinter.filedialog", "tkFileDialog"), ("tkinter.font", "tkFont"),
    ("tkinter.messagebox", "tkMessageBox"), ("tkinter.scrolledtext", "ScrolledText"),
    ("tkinter.simpledialog", "tkSimpleDialog"), ("tkinter.tix", "Tix"), ("tkinter.ttk", "ttk"),
    ("urllib.parse", "urlparse"), ("urllib.request", "urllib2"),
    ("urllib.robotparser", "robotparser"), ("winreg", "_winreg"), ("xmlrpc.client", "xmlrpclib"),
    ("xmlrpc.server", "SimpleXMLRPCServer")]
  if n.module = "builtins" ∧ systemErrors.contains n.name then ⟨"exceptions", "OSError"⟩
  else if n.module = "builtins" ∧ sameErrors.contains n.name then ⟨"exceptions", n.name⟩
  else match renamed.lookup n with
    | some m => m
    | none => ⟨(modules.lookup n.module).getD n.module, n.name⟩

/-- The name part after the last dot, and the part before it. -/
def splitQualified (name : String) : Option (String × String) :=
  match (name.splitOn ".").reverse with
  | last :: parent@(_ :: _) => some (String.intercalate "." parent.reverse, last)
  | _ => none

/-- Writes a global: from version `4` its module and name as texts, before that as a line
each, a nested name through the attribute it is of its parent. -/
def writeGlobal : Nat → Name → Write Unit
  | 0, _ => refuse (nestingFault " while pickling an object")
  | fuel + 1, n => do
    if ← recalled (some (.global n)) then return
    let p ← protocolNow
    if 4 ≤ p then
      writeText true n.module
      writeText true n.name
      emit [0x93]
    else
      match splitQualified n.name with
      | some (parent, last) =>
        writeGlobal fuel (builtin "getattr")
        if p < 2 then emit [0x28]
        writeGlobal fuel ⟨n.module, parent⟩
        writeText false last
        emit (if 2 ≤ p then [0x86] else [0x74])
        emit [0x52]
      | none =>
        let m := if p < 3 ∧ (← get).oldNames then olderName n else n
        let text (s : String) : List UInt8 := s.toList.map fun c => c.toNat.toUInt8
        emit (0x63 :: text m.module ++ [0x0A] ++ text m.name ++ [0x0A])
    remember (some (.global n))

/-- The items in batches of a thousand; `trailing` adds an empty batch after a full last one. -/
def batchesOf {α : Type} (trailing : Bool) (xs : List α) : List (List α) :=
  let full := (List.range ((xs.length + 999) / 1000)).map fun k => (xs.drop (1000 * k)).take 1000
  if trailing ∧ xs.length % 1000 = 0 then full ++ [[]] else full

/-- Writes the items of a tuple and the instruction that makes it, which from version `2` is
one of its own for up to three items. The empty tuple is a single object and not
remembered. -/
def writeTupleWith (save : Value → Write Unit) (xs : List Value) : Write Unit := do
  let p ← protocolNow
  match xs with
  | [] => emit (if 1 ≤ p then [0x29] else [0x28, 0x74])
  | _ =>
    if 2 ≤ p ∧ xs.length ≤ 3 then
      xs.forM save
      emit [[0x85, 0x86, 0x87].getD (xs.length - 1) 0x87]
    else
      emit [0x28]
      xs.forM save
      emit [0x74]
    remember none

/-- Writes a list with the identity given: made empty, remembered, then filled. -/
def writeListWith (save : Value → Write Unit) (key : Option Identity) (xs : List Value) :
    Write Unit := do
  let p ← protocolNow
  emit (if 1 ≤ p then [0x5D] else [0x28, 0x6C])
  remember key
  match xs with
  | [] => pure ()
  | [x] => do save x; emit [0x61]
  | _ =>
    if p = 0 then xs.forM fun x => do save x; emit [0x61]
    else (batchesOf false xs).forM fun batch => do
      emit [0x28]
      batch.forM save
      emit [0x65]

/-- Writes the entries of a map into the map just written: one at a time in version `0`, else
in batches, a lone entry by itself. `exact` marks a map of the built-in class, whose batches end
with an empty one after a full thousand. -/
def writeEntriesWith (saveKey save : Value → Write Unit) (exact : Bool)
    (es : List (Value × Value)) : Write Unit := do
  let p ← protocolNow
  let pair (e : Value × Value) : Write Unit := do saveKey e.1; save e.2
  match es with
  | [] => pure ()
  | [e] => do pair e; emit [0x73]
  | _ =>
    if p = 0 then es.forM fun e => do pair e; emit [0x73]
    else if exact then
      (batchesOf true es).forM fun batch => do
        emit [0x28]
        batch.forM pair
        emit [0x75]
    else
      (batchesOf false es).forM fun batch => do
        match batch with
        | [e] => do pair e; emit [0x73]
        | _ => do
          emit [0x28]
          batch.forM pair
          emit [0x75]

/-- Writes the call that makes an object again and remembers the object: the callable, the
argument tuple, and the call. -/
def writeCallWith (save : Value → Write Unit) (callable : Value) (args : List Value)
    (key : Option Identity) : Write Unit := do
  save callable
  writeTupleWith save args
  emit [0x52]
  remember key

/-- Writes the state of an object made by a call: a map of its attributes, whose names are
shared texts, then the instruction that sets it. -/
def writeStateWith (save : Value → Write Unit) (attrs : List (String × Value)) : Write Unit := do
  let p ← protocolNow
  emit (if 1 ≤ p then [0x7D] else [0x28, 0x64])
  remember none
  let saveKey (k : Value) : Write Unit :=
    match k with
    | .str s => writeText true s
    | _ => save k
  writeEntriesWith saveKey save true (attrs.map fun (k, v) => (Value.str k, v))
  emit [0x62]

/-- Writes an object of a class written in the language: from version `2` the class made new
without arguments, before that the reconstructor called on the class; then its attributes, if
it has any. -/
def writeInstanceWith (save : Value → Write Unit) (fuel : Nat) (cls : Name) (a : Nat)
    (attrs : List (String × Value)) : Write Unit := do
  let p ← protocolNow
  if 2 ≤ p then
    writeGlobal fuel cls
    writeTupleWith save []
    emit [0x81]
    remember (some (.address a))
  else
    writeCallWith save (.global ⟨"copyreg", "_reconstructor"⟩)
      [.global cls, .global (builtin "object"), .none] (some (.address a))
  if !attrs.isEmpty then writeStateWith save attrs

/-- Writes a value, at most `fuel` objects deep. -/
def writeValue (h : Heap) : Nat → Value → Write Unit
  | 0, _ => refuse (nestingFault " while pickling an object")
  | fuel + 1, v => do
    let save := writeValue h fuel
    let p ← protocolNow
    match v with
    | .none => emit [0x4E]
    | .bool b =>
      if 2 ≤ p then emit [if b then 0x88 else 0x89]
      else emit (latinBytes (if b then "I01\n" else "I00\n"))
    | .int i => writeInt h i
    | .float x | .double x => writeFloat h x
    | .str s => writeText false s
    | .bytes bs =>
      let key : Option Identity := if bs.isEmpty then some (.octets bs) else none
      if ← recalled key then return
      if p < 3 then
        if bs.isEmpty then writeCallWith save (.global (builtin "bytes")) [] key
        else do
          save (.global ⟨"_codecs", "encode"⟩)
          if p < 2 then emit [0x28]
          writeText false (String.ofList (bs.map fun b => Char.ofNat b.toNat))
          writeText true "latin1"
          emit (if 2 ≤ p then [0x86] else [0x74])
          remember none
          emit [0x52]
          remember key
      else
        if bs.length ≤ 0xFF then emit (0x43 :: bs.length.toUInt8 :: bs)
        else emit (0x42 :: littleEndianBytes 4 bs.length ++ bs)
        remember key
    | .tuple xs => writeTupleWith save xs
    | .named cls _ xs =>
      if 2 ≤ p then do
        writeGlobal fuel cls
        writeTupleWith save xs
        emit [0x81]
        remember none
      else
        writeCallWith save (.global ⟨"copyreg", "_reconstructor"⟩)
          [.global cls, .global (builtin "tuple"), .tuple xs] none
    | .frozenset xs _ =>
      if p < 4 then do
        save (.global (builtin "frozenset"))
        if p < 2 then emit [0x28]
        writeListWith save none xs
        emit (if 2 ≤ p then [0x85] else [0x74])
        remember none
        emit [0x52]
        remember none
      else
        emit [0x28]
        xs.forM save
        emit [0x91]
        remember none
    | .complex re im => writeCallWith save (.global (builtin "complex")) [.float re, .float im] none
    | .decimal d =>
      writeCallWith save (.global ⟨"decimal", "Decimal"⟩) [.str d.text] none
    | .fraction n d =>
      writeCallWith save (.global ⟨"fractions", "Fraction"⟩) [.int n, .int (d : Int)] none
    | .range a b c => writeCallWith save (.global (builtin "range")) [.int a, .int b, .int c] none
    | .global n => writeGlobal fuel n
    | .module _ => refuse ⟨"TypeError", "cannot pickle 'module' object"⟩
    | .member cls label =>
      let value := ((enumerationMembers cls).lookup label).getD .none
      writeCallWith save (.global cls) [value] none
    | .ref a =>
      if ← recalled (some (.address a)) then return
      match h.get a with
      | .list xs => writeListWith save (some (.address a)) xs
      | .dict cls es factory =>
        if cls = builtin "dict" then do
          emit (if 1 ≤ p then [0x7D] else [0x28, 0x64])
          remember (some (.address a))
          writeEntriesWith save save true es
        else do
          let args := match factory with
            | .none => []
            | f => if cls = defaultMap then [f] else []
          writeCallWith save (.global cls) args (some (.address a))
          writeEntriesWith save save false es
      | .set xs _ =>
        if p < 4 then do
          save (.global (builtin "set"))
          if p < 2 then emit [0x28]
          writeListWith save none xs
          emit (if 2 ≤ p then [0x85] else [0x74])
          remember none
          emit [0x52]
          remember (some (.address a))
        else do
          emit [0x8F]
          remember (some (.address a))
          if !xs.isEmpty then
            (batchesOf true xs).forM fun batch => do
              emit [0x28]
              batch.forM save
              emit [0x90]
      | .bytearray bs =>
        if 5 ≤ p then do
          emit (0x96 :: littleEndianBytes 8 bs.length ++ bs)
          remember (some (.address a))
        else
          writeCallWith save (.global (builtin "bytearray")) (if bs.isEmpty then [] else [.bytes bs])
            (some (.address a))
      | .object cls args attrs =>
        if isError cls then do
          writeCallWith save (.global cls) args (some (.address a))
          if !attrs.isEmpty then writeStateWith save attrs
        else if cls = simpleNamespace then do
          writeCallWith save (.global cls) [] (some (.address a))
          writeStateWith save attrs
        else writeInstanceWith save fuel cls a attrs
      | .iterator kind _ _ => refuse ⟨"TypeError", "cannot pickle '" ++ kind ++ "' object"⟩

/-- A value written as a stream of a version, with the older names of globals before version
`3` when `oldNames` is set. -/
def pickleValue (h : Heap) (protocol : Nat) (oldNames : Bool) (v : Value) :
    Except Raised (List UInt8) := do
  let start : Writer := ⟨protocol, oldNames, [], 0, #[]⟩
  let ((), w) ← (writeValue h nestingLimit v).run start
  let body := w.out.toList ++ [0x2E]
  let header : List UInt8 := if 2 ≤ protocol then [0x80, protocol.toUInt8] else []
  if 4 ≤ protocol ∧ 4 ≤ body.length then
    pure (header ++ 0x95 :: littleEndianBytes 8 body.length ++ body)
  else pure (header ++ body)

/-- `dumps`: a value written as a stream, of version `4` unless another is asked for; a
negative version asks for the highest. -/
def pickleDumps (args : List Value) (kwargs : List (String × Value)) : Act Value := do
  let bound ← reading fun _ => bindKeywords "dumps"
    [required "obj", optional "protocol", keyword "fix_imports", keyword "buffer_callback"] args
    kwargs
  match bound with
  | [some obj, protocol, oldNames, _] => do
    let p ← match protocol with
      | none | some .none => pure 4
      | some v => do
        let i ← reading fun h => asIndex h v
        if 5 < i then throw ⟨"ValueError", "pickle protocol must be <= 5"⟩
        pure (if i < 0 then 5 else i.toNat)
    let oldNames ← match oldNames with
      | some v => v.truthy
      | none => pure true
    pure (.bytes (← reading fun h => pickleValue h p oldNames obj))
  | _ => pure .none

/-- A function of the stream modules, applied, or `none` for a name they do not have. -/
def pickleFunction (m name : String) (args : List Value) (kwargs : List (String × Value)) :
    Option (Act Value) :=
  if (m = "_pickle" ∨ m = "pickle") ∧ name = "dumps" then some (pickleDumps args kwargs) else none

end ItemRecommender.Object
