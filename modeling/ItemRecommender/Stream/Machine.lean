import ItemRecommender.Object.Call
import ItemRecommender.Stream.Instruction
import ItemRecommender.Stream.Literal
import ItemRecommender.Text.Utf8
/-! # Running a dataset stream

    A dataset stream is read by a stack machine (`Machine`). Its state is a stack of values, a
    stack of marks, each the height of the value stack when it was set, a memo of values by
    index, and the heap of the objects it has made. Each instruction reads its argument from the
    stream, works on the stack, and the `stop` instruction yields the top value. A container is
    a cell of the heap, so a value pushed twice, or taken from the memo, is the same object:
    changing it through one reference shows through every other.

    The values above the top mark are the ones an instruction may take (`Machine.fence`); taking
    more is an underflow, reported as an unexpected mark when a mark is set. A stream that ends
    where an instruction should start has run out; one that ends inside an argument, or whose
    line has no line feed, is truncated.

    A stream names globals by module and name (`Object.findGlobal`), calls them (`reduce`),
    makes objects of classes without initialising them (`newObj`, and `inst` and `obj` without
    arguments) and sets their state (`build`). -/

namespace ItemRecommender.Stream

open ItemRecommender.Text ItemRecommender.Object

/-- A byte as a message shows it: a printable ASCII character other than the quote and the
backslash as itself, any other byte as `\x` and two hexadecimal digits. -/
def loadKey (b : UInt8) : String :=
  if 0x20 ≤ b ∧ b ≤ 0x7E ∧ b ≠ 0x27 ∧ b ≠ 0x5C then String.singleton (Char.ofNat b.toNat)
  else String.ofList ('\\' :: 'x' :: hexDigits 2 b.toNat)

/-- The largest count a stream may give. -/
def maxCount : Nat := Nat.pow 2 63 - 1

/-- Why a stream yields no value. -/
inductive Fault where
  /-- The stream ends where an instruction should start. -/
  | ranOut
  /-- The stream ends inside an instruction's argument. -/
  | truncated
  /-- A byte that starts no instruction. -/
  | invalidKey (b : UInt8)
  /-- An instruction needs a mark and none is set. -/
  | noMark
  /-- An instruction needs more values than stand above the top mark. -/
  | underflow (markSet : Bool)
  /-- The stream names a version above the highest known one. -/
  | unsupportedProtocol (version : Nat)
  /-- The stream refers to an object kept outside it. -/
  | persistentId
  /-- The stream refers to data passed beside it. -/
  | outOfBand
  /-- A map is built from an odd number of values. -/
  | oddItems (what : String)
  /-- The memo holds nothing at an index. -/
  | memoMissing (index : Int)
  /-- An integer of a negative number of bytes. -/
  | negativeCount
  /-- A quoted string without its quotes. -/
  | notQuoted
  /-- An object's state is not a map. -/
  | stateNotMap
  /-- An object's slot state is not a map. -/
  | slotStateNotMap
  /-- A module or class name from the stack that is not a text. -/
  | globalNotText
  /-- An extension code that is not positive. -/
  | extensionNotPositive
  /-- An object is made from something that is not a class. -/
  | notAClass (what typeName : String)
  /-- An object is made from arguments that are not a tuple. -/
  | argumentsNotTuple (what typeName : String)
  /-- An object is made from keyword arguments that are not a map. -/
  | keywordsNotMap (typeName : String)
  /-- An operation on values raised an error. -/
  | raised (r : Raised)
  deriving DecidableEq, Repr

namespace Fault

/-- An error of the stream's own reader. -/
def unpickling (message : String) : Raised := ⟨"UnpicklingError", message⟩

/-- The error a fault raises. -/
def toRaised : Fault → Raised
  | .ranOut => ⟨"EOFError", "Ran out of input"⟩
  | .truncated => unpickling "pickle data was truncated"
  | .invalidKey b => unpickling ("invalid load key, '" ++ loadKey b ++ "'.")
  | .noMark => unpickling "could not find MARK"
  | .underflow true => unpickling "unexpected MARK found"
  | .underflow false => unpickling "unpickling stack underflow"
  | .unsupportedProtocol n => ⟨"ValueError", "unsupported pickle protocol: " ++ toString n⟩
  | .persistentId => unpickling
      "A load persistent id instruction was encountered,\nbut no persistent_load function was specified."
  | .outOfBand => unpickling
      "pickle stream refers to out-of-band data but no *buffers* argument was given"
  | .oddItems what => unpickling ("odd number of items for " ++ what)
  | .memoMissing i => unpickling ("Memo value not found at index " ++ toString i)
  | .negativeCount => unpickling "LONG pickle has negative byte count"
  | .notQuoted => unpickling "the STRING opcode argument must be quoted"
  | .stateNotMap => unpickling "state is not a dictionary"
  | .slotStateNotMap => unpickling "slot state is not a dictionary"
  | .globalNotText => unpickling "STACK_GLOBAL requires str"
  | .extensionNotPositive => unpickling "EXT specifies code <= 0"
  | .notAClass what t => unpickling (what ++ " class argument must be a type, not " ++ t)
  | .argumentsNotTuple what t => unpickling (what ++ " args argument must be a tuple, not " ++ t)
  | .keywordsNotMap t => unpickling ("NEWOBJ_EX kwargs argument must be a dict, not " ++ t)
  | .raised r => r

end Fault

/-- Raises an error of a class with a message. -/
def failWith {α : Type} (kind message : String) : Except Fault α := throw (.raised ⟨kind, message⟩)

/-- Lifts an operation on values into the machine's errors. -/
def lift {α : Type} (r : Except Raised α) : Except Fault α := r.mapError .raised

/-! ## Reading arguments -/

/-- The first `n` bytes of a stream and the rest. -/
def takeBytes (n : Nat) (s : List UInt8) : Except Fault (List UInt8 × List UInt8) :=
  if s.length < n then throw .truncated else pure (s.take n, s.drop n)

/-- The first line of a stream, with its line feed, and the rest. -/
def takeLine (s : List UInt8) : Except Fault (List UInt8 × List UInt8) :=
  match s.findIdx? (· = 10) with
  | some i => pure (s.take (i + 1), s.drop (i + 1))
  | none => throw .truncated

/-- The number that bytes stand for, least significant first. -/
def littleEndian (bs : List UInt8) : Nat := bs.foldr (fun b acc => b.toNat + 256 * acc) 0

/-- The two's complement value of `width` bytes holding `v`. -/
def twosComplement (width v : Nat) : Int :=
  if v < Nat.pow 2 (8 * width - 1) then v else (v : Int) - Nat.pow 2 (8 * width)

/-- Bytes as the characters of the same numbers. -/
def latin (bs : List UInt8) : List Char := bs.map fun b => Char.ofNat b.toNat

/-- The bytes before the first NUL. -/
def cString (bs : List UInt8) : List UInt8 := bs.takeWhile (· ≠ 0)

/-- Counted UTF-8 text, where a surrogate is allowed. -/
def utf8Text (bs : List UInt8) : Except Fault String :=
  match decodeUtf8Passing bs with
  | .ok cs => pure (String.ofList cs)
  | .error e => failWith "UnicodeDecodeError" e.message

/-- The error of a literal that is not read: the text as the message shows it is the literal up
to its first NUL, at most 200 bytes of it, which must be UTF-8. -/
def literalFault (text : List UInt8) : LiteralFault → Fault
  | .tooManyDigits n => .raised ⟨"ValueError", "Exceeds the limit (" ++ toString Decimal.maxIntDigits ++
      " digits) for integer string conversion: value has " ++ toString n ++
      " digits; use sys.set_int_max_str_digits() to increase the limit"⟩
  | .invalid base =>
    match decodeUtf8 ((cString text).take 200) with
    | .error e => .raised ⟨"UnicodeDecodeError", e.message⟩
    | .ok cs => .raised ⟨"ValueError", "invalid literal for int() with base " ++ toString base ++
        ": " ++ String.ofList ((quoteChars cs).take 200)⟩

/-- An integer literal of a base on a line. -/
def readInteger (base : Nat) (line : List UInt8) : Except Fault Int :=
  (readLiteral base (latin (cString line))).mapError (literalFault line)

/-- A memo index read from a line, which must fit a signed 64-bit word. -/
def memoIndex (line : List UInt8) : Except Fault Int := do
  let i ← readInteger 10 line
  if (maxCount : Int) < i ∨ i < -(maxCount : Int) - 1 then
    failWith "OverflowError" "Python int too large to convert to C ssize_t"
  pure i

/-- The text of a line as an error about a double shows it. -/
def shownLine (line : List UInt8) : String := String.ofList (decodeReplacing ((cString line).take 200))

/-! ## Operations on objects -/

/-- The byte a value stands for. -/
def byteOf (h : Heap) (v : Value) : Except Raised UInt8 := do
  let i ← asIndex h v
  if 0 ≤ i ∧ i < 256 then pure i.toNat.toUInt8
  else throw ⟨"ValueError", "byte must be in range(0, 256)"⟩

/-- Puts a value under a key into a map, list, byte array or map wrapper. -/
def setItem (target key value : Value) : Act Unit := do
  let h ← get
  let unsupported : Raised :=
    ⟨"TypeError", "'" ++ target.typeName h ++ "' object does not support item assignment"⟩
  match target with
  | .ref a =>
    match h.get a with
    | .dict cls es factory =>
      let es ← reading fun h => putEntry h es key value
      store a (.dict cls es factory)
    | .list xs => do
      let i ← reading fun h => indexOf h "list" key
      match position? i xs.length with
      | some j => store a (.list (xs.set j value))
      | none => throw ⟨"IndexError", "list assignment index out of range"⟩
    | .bytearray bs => do
      let i ← reading fun h => indexOf h "bytearray" key
      let b ← reading fun h => byteOf h value
      match position? i bs.length with
      | some j => store a (.bytearray (bs.set j b))
      | none => throw ⟨"IndexError", "bytearray index out of range"⟩
    | .object cls _ attrs =>
      if cls = mapWrapper then
        match attrs.lookup "data" with
        | some data => data.putItem key value
        | none => throw ⟨"AttributeError", "'UserDict' object has no attribute 'data'"⟩
      else throw unsupported
    | _ => throw unsupported
  | .str _ | .bytes _ | .tuple _ | .named .. | .frozenset .. | .range .. => do
    -- a sequence first turns an integer key into an index
    match key with
    | .int _ => let _ ← reading fun h => indexOf h (target.typeName h) key
    | _ => pure ()
    throw unsupported
  | _ => throw unsupported

/-- Extends a list or byte array by values. -/
def extendWith (target : Value) (items : List Value) : Act Unit := do
  let h ← get
  match target with
  | .ref a =>
    match h.get a with
    | .list xs => store a (.list (xs ++ items))
    | .bytearray bs => do
      let more ← reading fun h => items.mapM (byteOf h)
      store a (.bytearray (bs ++ more))
    | _ => throw (noAttribute h target "append")
  | _ => throw (noAttribute h target "append")

/-- Adds values to a set, one by one. -/
def addAll (target : Value) (items : List Value) : Act Value := do
  let h ← get
  match target with
  | .ref a =>
    match h.get a with
    | .set xs l => do
      let t ← reading fun h => items.foldlM (addMember h) (Table.ofLayout xs l)
      store a t.cell
      pure target
    | _ => throw (noAttribute h target "add")
  | _ => throw (noAttribute h target "add")

/-! ## The machine -/

/-- The state of the machine: the value stack and the marks, top first, the memo, most recent
entry first, with the number of its indices, the version the stream named, and the heap of the
objects made so far. -/
structure Machine where
  stack : List Value
  marks : List Nat
  memo : List (Nat × Value)
  memoSize : Nat
  protocol : Nat
  heap : Heap

/-- What an instruction leaves: the machine and the rest of the stream, or the value the stream
yields and the heap it lives in. -/
inductive Step where
  | next (m : Machine) (rest : List UInt8)
  | done (v : Value) (h : Heap)

namespace Machine

/-- The machine before the first instruction. -/
def empty : Machine := ⟨[], [], [], 0, 0, Heap.empty⟩

/-- The height of the value stack. -/
def size (m : Machine) : Nat := m.stack.length

/-- The height below which no instruction may take values: the top mark, or the bottom. -/
def fence (m : Machine) : Nat := m.marks.headD 0

/-- The fault of taking a value below the fence. -/
def underflow (m : Machine) : Fault := .underflow !m.marks.isEmpty

/-- Pushes a value. -/
def push (m : Machine) (v : Value) : Machine := { m with stack := v :: m.stack }

/-- Takes the top value off. -/
def pop (m : Machine) : Except Fault (Value × Machine) :=
  match m.stack with
  | v :: rest => if m.size ≤ m.fence then throw m.underflow else pure (v, { m with stack := rest })
  | [] => throw m.underflow

/-- The top value. -/
def top (m : Machine) : Except Fault Value := do
  let (v, _) ← m.pop
  pure v

/-- Replaces the top value. -/
def setTop (m : Machine) (v : Value) : Machine :=
  { m with stack := v :: m.stack.drop 1 }

/-- Takes the top mark off: the height it records. -/
def popMark (m : Machine) : Except Fault (Nat × Machine) :=
  match m.marks with
  | k :: ks => pure (k, { m with marks := ks })
  | [] => throw .noMark

/-- Takes the values above a height off, bottom first. -/
def takeFrom (m : Machine) (start : Nat) : List Value × Machine :=
  let n := m.size - start
  ((m.stack.take n).reverse, { m with stack := m.stack.drop n })

/-- Stores a value in the memo. -/
def remember (m : Machine) (i : Nat) (v : Value) : Machine :=
  let size := if m.memo.any (·.1 = i) then m.memoSize else m.memoSize + 1
  { m with memo := (i, v) :: m.memo, memoSize := size }

/-- The memo entry at an index. -/
def memoAt (m : Machine) (i : Int) : Except Fault Value :=
  match m.memo.find? (fun e => (e.1 : Int) = i) with
  | some e => pure e.2
  | none => throw (.memoMissing i)

/-- Runs an operation on objects against the machine's heap. -/
def perform {α : Type} (m : Machine) (act : Act α) : Except Fault (α × Machine) :=
  match act.run m.heap with
  | .ok (x, h) => pure (x, { m with heap := h })
  | .error r => throw (.raised r)

/-- Runs an operation on objects and pushes its result. -/
def pushing (m : Machine) (act : Act Value) : Except Fault Machine := do
  let (v, m) ← m.perform act
  pure (m.push v)

/-- The global a module and a name stand for. -/
def findClass (m : Machine) (module name : String) : Except Fault Value :=
  (findGlobal m.protocol module name).mapError .raised

/-- Appends the values above height `x` to the list or byte array just below them. -/
def appendAt (m : Machine) (x : Int) : Except Fault Machine := do
  if m.size < x ∨ x ≤ m.fence then throw m.underflow
  if x = m.size then return m
  let (items, m) := m.takeFrom x.toNat
  let target ← m.top
  let ((), m) ← m.perform (extendWith target items)
  pure m

/-- Puts the pairs above height `x` into the target just below them, one pair after the
other. -/
def setItemsAt (m : Machine) (x : Int) : Except Fault Machine := do
  if m.size < x ∨ x ≤ m.fence then throw m.underflow
  if x = m.size then return m
  if (m.size - x.toNat) % 2 = 1 then throw (.oddItems "SETITEMS")
  let (items, m) := m.takeFrom x.toNat
  let target ← m.top
  let rec pairs : List Value → Act Unit
    | k :: v :: rest => do
      setItem target k v
      pairs rest
    | _ => pure ()
  let ((), m) ← m.perform (pairs items)
  pure m

/-- Builds a tuple of the top `n` values. -/
def tupleOf (m : Machine) (n : Nat) : Except Fault Machine :=
  if m.size < m.fence + n then throw m.underflow
  else
    let (items, m) := m.takeFrom (m.size - n)
    pure (m.push (.tuple items))

/-- Makes an object of a class from arguments taken off the stack: without arguments a class
makes an object without initialising it; otherwise the class or function is called. -/
def instantiate (m : Machine) (cls : Value) (args : List Value) : Except Fault Machine :=
  match cls, args with
  | .global n, [] => if n.isClass then m.pushing (n.instantiate [] []) else m.pushing (cls.call [] [])
  | _, _ => m.pushing (cls.call args [])

/-- Sets an object's state. -/
def build (m : Machine) : Except Fault Machine := do
  if m.size < m.fence + 2 then throw m.underflow
  let (state, m) ← m.pop
  let inst ← m.top
  let ((), m) ← m.perform (inst.setState state)
  pure m

/-- Reads a stream held in a value, as the stream reader's own `loads` does: the value it
yields joins the machine's heap. The reader of the inner stream is `nested`, and a fault in it
is an error raised by the call. -/
def loadsCall (m : Machine) (nested : List UInt8 → Except Fault (Value × Heap))
    (args : List Value) : Except Fault Machine := do
  match args with
  | [data] =>
    let bytes ← match bytesOf? m.heap data with
      | some bs => pure bs
      | none => failWith "TypeError" ("a bytes-like object is required, not '" ++
          data.typeName m.heap ++ "'")
    match nested bytes with
    | .ok (v, inner) =>
      let (heap, v) := m.heap.append inner v
      pure ({ m with heap := heap }.push v)
    | .error f => throw (.raised f.toRaised)
  | _ => failWith "TypeError" ("loads() takes exactly 1 positional argument (" ++
      toString args.length ++ " given)")

/-- Whether a value is the stream reader's `loads`. -/
def isLoads : Value → Bool
  | .global n => n = ⟨"_pickle", "loads"⟩ || n = ⟨"pickle", "loads"⟩
  | _ => false

/-- Runs one instruction on the rest of the stream; `nested` reads a stream that a call of
`loads` hands over. -/
def step (m : Machine) (rest : List UInt8) (nested : List UInt8 → Except Fault (Value × Heap)) :
    Instruction → Except Fault Step
  | .mark => pure (.next { m with marks := m.size :: m.marks } rest)
  | .stop => do
    let (v, m) ← m.pop
    pure (.done v m.heap)
  | .pop =>
    match m.marks with
    | k :: ks => if k = m.size then pure (.next { m with marks := ks } rest) else popValue
    | [] => popValue
  | .popMark => do
    let (k, m) ← m.popMark
    pure (.next (m.takeFrom k).2 rest)
  | .dup => do pure (.next (m.push (← m.top)) rest)
  | .intLine => do
    let (line, rest) ← takeLine rest
    if line.length < 2 then throw .truncated
    let text := latin (cString line)
    match cLong? text with
    | some x =>
      let v : Value := if line.length = 3 ∧ (x = 0 ∨ x = 1) then .bool (x = 1) else .int x
      pure (.next (m.push v) rest)
    | none =>
      match readLiteral 0 text with
      | .ok v => pure (.next (m.push (.int v)) rest)
      | .error _ => failWith "ValueError" "could not convert string to int"
  | .longLine => do
    let (line, rest) ← takeLine rest
    if line.length < 2 then throw .truncated
    let text := if line.getD (line.length - 2) 0 = 0x4C then line.take (line.length - 2) else line
    pure (.next (m.push (.int (← readInteger 0 text))) rest)
  | .floatLine => do
    let (line, rest) ← takeLine rest
    if line.length < 2 then throw .truncated
    match leadingFloat? (latin (cString line)) with
    | none => failWith "ValueError" ("could not convert string to float: '" ++ shownLine line ++ "'")
    | some scan =>
      if scan.fromDigits ∧ scan.value.isInf then
        failWith "OverflowError" ("value too large to convert to float: '" ++ shownLine line ++ "'")
      else if !(scan.rest.isEmpty ∨ scan.rest.head? = some '\n') then
        failWith "ValueError" "could not convert string to float"
      else pure (.next (m.push (.float scan.value)) rest)
  | .int4 => do
    let (bs, rest) ← takeBytes 4 rest
    pure (.next (m.push (.int (twosComplement 4 (littleEndian bs)))) rest)
  | .int1 => do
    let (bs, rest) ← takeBytes 1 rest
    pure (.next (m.push (.int (littleEndian bs))) rest)
  | .int2 => do
    let (bs, rest) ← takeBytes 2 rest
    pure (.next (m.push (.int (littleEndian bs))) rest)
  | .long1 => do
    let (count, rest) ← takeBytes 1 rest
    let (bs, rest) ← takeBytes (littleEndian count) rest
    pure (.next (m.push (.int (twosComplement bs.length (littleEndian bs)))) rest)
  | .long4 => do
    let (count, rest) ← takeBytes 4 rest
    let n := twosComplement 4 (littleEndian count)
    if n < 0 then throw .negativeCount
    let (bs, rest) ← takeBytes n.toNat rest
    pure (.next (m.push (.int (twosComplement bs.length (littleEndian bs)))) rest)
  | .float8 => do
    let (bs, rest) ← takeBytes 8 rest
    pure (.next (m.push (.float (Float.ofBits (littleEndian bs.reverse).toUInt64))) rest)
  | .none => pure (.next (m.push .none) rest)
  | .newTrue => pure (.next (m.push (.bool true)) rest)
  | .newFalse => pure (.next (m.push (.bool false)) rest)
  | .quotedString => do
    let (line, rest) ← takeLine rest
    let body := line.dropLast
    match body.head?, body.getLast? with
    | some q, some q' =>
      if 2 ≤ body.length ∧ q = q' ∧ (q = 0x27 ∨ q = 0x22) then
        let text ← lift (asciiText (← lift (unescapeBytes 0 (body.drop 1).dropLast)))
        pure (.next (m.push (.str text)) rest)
      else throw .notQuoted
    | _, _ => throw .notQuoted
  | .string4 => counted 4 fun bs => do pure (.str (← lift (asciiText bs)))
  | .string1 => counted 1 fun bs => do pure (.str (← lift (asciiText bs)))
  | .unicodeLine => do
    let (line, rest) ← takeLine rest
    let cs ← lift (rawUnicode 0 line.dropLast)
    pure (.next (m.push (.str (String.ofList cs))) rest)
  | .unicode4 => counted 4 fun bs => do pure (.str (← utf8Text bs))
  | .unicode1 => counted 1 fun bs => do pure (.str (← utf8Text bs))
  | .unicode8 => wide "BINUNICODE exceeds system's maximum size of " fun bs => do
      pure (.str (← utf8Text bs))
  | .bytes4 => counted 4 fun bs => pure (.bytes bs)
  | .bytes1 => counted 1 fun bs => pure (.bytes bs)
  | .bytes8 => wide "BINBYTES exceeds system's maximum size of " fun bs => pure (.bytes bs)
  | .bytearray8 => do
    let (count, rest) ← takeBytes 8 rest
    let n := littleEndian count
    if maxCount < n then
      failWith "OverflowError" ("BYTEARRAY8 exceeds system's maximum size of " ++ toString maxCount ++ " bytes")
    let (bs, rest) ← takeBytes n rest
    pure (.next (← m.pushing (allocate (.bytearray bs))) rest)
  | .nextBuffer => throw .outOfBand
  | .readonlyBuffer => do
    let v ← m.top
    match v with
    | .bytes _ => pure (.next m rest)
    | .ref a =>
      match m.heap.get a with
      | .bytearray bs => pure (.next (m.setTop (.bytes bs)) rest)
      | _ => failWith "TypeError" ("memoryview: a bytes-like object is required, not " ++
          quote (v.typeName m.heap))
    | _ => failWith "TypeError" ("memoryview: a bytes-like object is required, not " ++
        quote (v.typeName m.heap))
  | .emptyTuple => pure (.next (m.push (.tuple [])) rest)
  | .tuple => do
    let (k, m) ← m.popMark
    let (items, m) := m.takeFrom k
    pure (.next (m.push (.tuple items)) rest)
  | .tuple1 => do pure (.next (← m.tupleOf 1) rest)
  | .tuple2 => do pure (.next (← m.tupleOf 2) rest)
  | .tuple3 => do pure (.next (← m.tupleOf 3) rest)
  | .emptyList => do pure (.next (← m.pushing (newList [])) rest)
  | .list => do
    let (k, m) ← m.popMark
    let (items, m) := m.takeFrom k
    pure (.next (← m.pushing (newList items)) rest)
  | .emptyDict => do pure (.next (← m.pushing (newDict [])) rest)
  | .dict => do
    let (k, m) ← m.popMark
    if (m.size - k) % 2 = 1 then throw (.oddItems "DICT")
    let (items, m) := m.takeFrom k
    let rec entries : List Value → List (Value × Value) → Act (List (Value × Value))
      | key :: v :: more, acc => do entries more (← reading fun h => putEntry h acc key v)
      | _, acc => pure acc
    pure (.next (← m.pushing (do newDict (← entries items []))) rest)
  | .emptySet => do pure (.next (← m.pushing (allocate (.set [] Layout.empty))) rest)
  | .frozenset => do
    let (k, m) ← m.popMark
    let (items, m) := m.takeFrom k
    pure (.next (← m.pushing (do pure (← reading fun h => tableOf h items).frozen)) rest)
  | .append => do pure (.next (← m.appendAt ((m.size : Int) - 1)) rest)
  | .appends => do
    let (k, m) ← m.popMark
    pure (.next (← m.appendAt k) rest)
  | .setItem => do pure (.next (← m.setItemsAt ((m.size : Int) - 2)) rest)
  | .setItems => do
    let (k, m) ← m.popMark
    pure (.next (← m.setItemsAt k) rest)
  | .addItems => do
    let (k, m) ← m.popMark
    if m.size < k ∨ k ≤ m.fence then throw m.underflow
    if k = m.size then return .next m rest
    let (items, m) := m.takeFrom k
    let target ← m.top
    let (v, m) ← m.perform (addAll target items)
    pure (.next (m.setTop v) rest)
  | .global => do
    let (line, rest) ← takeLine rest
    if line.length < 2 then throw .truncated
    let module ← utf8Text line.dropLast
    let (line, rest) ← takeLine rest
    if line.length < 2 then throw .truncated
    let name ← utf8Text line.dropLast
    pure (.next (m.push (← m.findClass module name)) rest)
  | .stackGlobal => do
    let (name, m) ← m.pop
    let (module, m) ← m.pop
    match module, name with
    | .str module, .str name => pure (.next (m.push (← m.findClass module name)) rest)
    | _, _ => throw .globalNotText
  | .inst => do
    let (k, m) ← m.popMark
    let (line, rest) ← takeLine rest
    if line.length < 2 then throw .truncated
    let module ← lift (asciiText line.dropLast)
    let (line, rest) ← takeLine rest
    if line.length < 2 then throw .truncated
    let name ← lift (asciiText line.dropLast)
    let cls ← m.findClass module name
    let (args, m) := m.takeFrom k
    pure (.next (← m.instantiate cls args) rest)
  | .obj => do
    let (k, m) ← m.popMark
    if m.size < k + 1 then throw m.underflow
    let (args, m) := m.takeFrom (k + 1)
    let (cls, m) ← m.pop
    pure (.next (← m.instantiate cls args) rest)
  | .newObj => do
    let (args, m) ← m.pop
    let (cls, m) ← m.pop
    newObject "NEWOBJ" m cls args (Value.none)
  | .newObjEx => do
    let (kwargs, m) ← m.pop
    let (args, m) ← m.pop
    let (cls, m) ← m.pop
    newObject "NEWOBJ_EX" m cls args kwargs
  | .reduce => do
    let (args, m) ← m.pop
    let (callable, m) ← m.pop
    match args with
    | .tuple xs | .named _ _ xs =>
      if isLoads callable then pure (.next (← m.loadsCall nested xs) rest)
      else pure (.next (← m.pushing (callable.call xs [])) rest)
    | _ => failWith "TypeError" "argument list must be a tuple"
  | .build => do pure (.next (← m.build) rest)
  | .ext1 => extension 1 false
  | .ext2 => extension 2 false
  | .ext4 => extension 4 true
  | .persistentId | .persistentIdStack => throw .persistentId
  | .get => do
    let (line, rest) ← takeLine rest
    if line.length < 2 then throw .truncated
    pure (.next (m.push (← m.memoAt (← memoIndex line))) rest)
  | .binGet => do
    let (bs, rest) ← takeBytes 1 rest
    pure (.next (m.push (← m.memoAt (littleEndian bs))) rest)
  | .longBinGet => do
    let (bs, rest) ← takeBytes 4 rest
    pure (.next (m.push (← m.memoAt (littleEndian bs))) rest)
  | .put => do
    let (line, rest) ← takeLine rest
    if line.length < 2 then throw .truncated
    let v ← m.top
    let i ← memoIndex line
    if i < 0 then failWith "ValueError" "negative PUT argument"
    pure (.next (m.remember i.toNat v) rest)
  | .binPut => do
    let (bs, rest) ← takeBytes 1 rest
    pure (.next (m.remember (littleEndian bs) (← m.top)) rest)
  | .longBinPut => do
    let (bs, rest) ← takeBytes 4 rest
    pure (.next (m.remember (littleEndian bs) (← m.top)) rest)
  | .memoize => do pure (.next (m.remember m.memoSize (← m.top)) rest)
  | .proto => do
    let (bs, rest) ← takeBytes 1 rest
    let version := littleEndian bs
    if 5 < version then throw (.unsupportedProtocol version)
    pure (.next { m with protocol := version } rest)
  | .frame => do
    let (bs, rest) ← takeBytes 8 rest
    let n := littleEndian bs
    if maxCount < n then
      failWith "OverflowError" ("FRAME length exceeds system's maximum of " ++ toString maxCount ++ " bytes")
    let _ ← takeBytes n rest
    pure (.next m rest)
where
  /-- Drops the top value. -/
  popValue : Except Fault Step := do
    let (_, m) ← m.pop
    pure (.next m rest)
  /-- Pushes the value of counted bytes, the count in `width` bytes. -/
  counted (width : Nat) (make : List UInt8 → Except Fault Value) : Except Fault Step := do
    let (count, rest) ← takeBytes width rest
    let (bs, rest) ← takeBytes (littleEndian count) rest
    pure (.next (m.push (← make bs)) rest)
  /-- Pushes the value of counted bytes, the count in 8 bytes and at most `maxCount`. -/
  wide (what : String) (make : List UInt8 → Except Fault Value) : Except Fault Step := do
    let (count, rest) ← takeBytes 8 rest
    let n := littleEndian count
    if maxCount < n then failWith "OverflowError" (what ++ toString maxCount ++ " bytes")
    let (bs, rest) ← takeBytes n rest
    pure (.next (m.push (← make bs)) rest)
  /-- Makes an object of a class from arguments and keyword arguments, without initialising
  it. -/
  newObject (what : String) (m : Machine) (cls args kwargs : Value) : Except Fault Step := do
    match cls with
    | .global n =>
      if !n.isClass then throw (.notAClass what (cls.typeName m.heap))
      match args with
      | .tuple xs | .named _ _ xs =>
        let kws ← match kwargs with
          | .none => pure []
          | .ref a =>
            match m.heap.get a with
            | .dict _ es _ => pure (es.filterMap fun (k, v) =>
                match k with
                | .str s => some (s, v)
                | _ => Option.none)
            | _ => throw (.keywordsNotMap (kwargs.typeName m.heap))
          | _ => throw (.keywordsNotMap (kwargs.typeName m.heap))
        pure (.next (← m.pushing (n.instantiate xs kws)) rest)
      | _ => throw (.argumentsNotTuple what (args.typeName m.heap))
    | _ => throw (.notAClass what (cls.typeName m.heap))
  /-- Looks up an extension code of `width` bytes. No code is registered. -/
  extension (width : Nat) (signed : Bool) : Except Fault Step := do
    let (bs, _) ← takeBytes width rest
    let code : Int := if signed then twosComplement width (littleEndian bs) else littleEndian bs
    if code ≤ 0 then throw .extensionNotPositive
    failWith "ValueError" ("unregistered extension code " ++ toString code)

/-- Runs the stream's instructions one after the other, at most `fuel` of them. -/
def runFor (nested : List UInt8 → Except Fault (Value × Heap)) :
    Nat → Machine → List UInt8 → Except Fault (Value × Heap)
  | 0, _, _ => throw .ranOut
  | _ + 1, _, [] => throw .ranOut
  | fuel + 1, m, b :: rest =>
    match Instruction.ofByte? b with
    | none => throw (.invalidKey b)
    | some i => do
      match ← m.step rest nested i with
      | .next m rest => runFor nested fuel m rest
      | .done v h => pure (v, h)

end Machine

/-- The value a stream yields with the heap of its objects, when streams handed to `loads`
may nest `depth` deep. Every instruction takes at least its own byte, so a stream of `n` bytes
runs at most `n` instructions. -/
def loadNested : Nat → List UInt8 → Except Fault (Value × Heap)
  | 0, _ => throw (.raised (nestingFault " while calling a Python object"))
  | depth + 1, bytes => Machine.empty.runFor (loadNested depth) (bytes.length + 1) bytes

/-- The value a dataset stream yields, with the heap of its objects. -/
def load (bytes : List UInt8) : Except Fault (Value × Heap) :=
  loadNested nestingLimit bytes

end ItemRecommender.Stream
