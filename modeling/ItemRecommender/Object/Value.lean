import ItemRecommender.Object.Table
/-! # Objects of a dataset

    A dataset that another program wrote holds a graph of objects of a dynamic language. Its
    immutable values (nothing, truth values, numbers, texts, byte strings, tuples and named
    tuples, frozen sets, ranges, and the classes, functions and modules that a dataset names by module and name) are
    values; every mutable object (lists, maps, sets, byte arrays, objects with attributes,
    iterators) is a cell of a heap, and a value refers to it by its address. Two references to one
    cell see each other's changes, which is how a dataset shares one list between two records.

    An operation on objects either gives a result or raises an error of a class with a message
    (`Raised`). Operations that read the heap take it as an argument; those that change it (making
    objects, consuming iterators) run in `Act`, which threads the heap and stops at the first
    error. -/

namespace ItemRecommender.Object

/-- The words of an error: its text, or, when writing the text of the value it carries fails,
the class and words of that failure. -/
inductive Words where
  | text (s : String)
  | unwritable (kind message : String)
  deriving DecidableEq, Repr, Inhabited

instance : Coe String Words := ⟨Words.text⟩

/-- The text of some words; words that cannot be written show the failure's words. -/
def Words.shown : Words → String
  | .text s => s
  | .unwritable _ m => m

/-- An error raised by an operation on objects: its class and its words. -/
structure Raised where
  kind : String
  message : Words
  deriving DecidableEq, Repr, Inhabited

/-- A global of a module: the module's dotted name and the name within it. -/
structure Name where
  module : String
  name : String
  deriving DecidableEq, Repr, Inhabited

/-- A decimal number with a coefficient and a power of ten, or one of the special values. -/
inductive DecimalNumber where
  /-- `±coefficient × 10^exponent`; the coefficient keeps its trailing zeros. -/
  | finite (negative : Bool) (coefficient : Nat) (exponent : Int)
  | infinite (negative : Bool)
  /-- A quiet or signaling NaN with its diagnostic digits. -/
  | nan (negative signaling : Bool) (payload : Nat)
  deriving DecidableEq, Repr, Inhabited

/-- A value: an immutable object, or a reference to a cell of the heap. -/
inductive Value where
  | none
  | bool (b : Bool)
  | int (i : Int)
  | float (x : Float)
  /-- A double of the array library's scalar type, which computes as a double. -/
  | double (x : Float)
  | complex (re im : Float)
  | decimal (d : DecimalNumber)
  /-- A fraction in lowest terms, with a positive denominator. -/
  | fraction (num : Int) (den : Nat)
  | str (s : String)
  | bytes (data : List UInt8)
  | tuple (items : List Value)
  /-- A tuple whose items also have names: an object of a class made by naming the fields of a
  tuple, which is a tuple in every other way. -/
  | named (cls : Name) (fields : List String) (items : List Value)
  /-- A frozen set: its members in the order of its table's slots, and the table's layout. -/
  | frozenset (items : List Value) (layout : Layout)
  | range (start stop step : Int)
  /-- A class, function or other object that a module holds, by its module and name. -/
  | global (n : Name)
  /-- A module, by its dotted name. -/
  | module (name : String)
  /-- A member of an enumeration class. -/
  | member (cls : Name) (name : String)
  /-- The cell at an address of the heap. -/
  | ref (address : Nat)
  deriving Inhabited

/-- A mutable object. -/
inductive Cell where
  | list (items : List Value)
  /-- A map of a class (the built-in map or one of its kinds), its entries in insertion order,
  and the factory of missing values of a map with defaults (`none` otherwise). -/
  | dict (cls : Name) (entries : List (Value × Value)) (factory : Value)
  /-- A set: its members in the order of its table's slots, and the table's layout. -/
  | set (items : List Value) (layout : Layout)
  | bytearray (data : List UInt8)
  /-- An object of a class: the arguments it was made with where the class keeps them (errors
  do), and its attributes in the order they were set. -/
  | object (cls : Name) (args : List Value) (attrs : List (String × Value))
  /-- An iterator of a kind: the values it has yet to give, and the error it raises after
  them, if any. Iterating it consumes them. -/
  | iterator (kind : String) (pending : List Value) (fault : Option Raised)
  deriving Inhabited

/-- The cells of a dataset's objects, by address. -/
structure Heap where
  cells : Array Cell
  deriving Inhabited

/-- An operation that may change the heap and may raise an error. -/
abbrev Act := StateT Heap (Except Raised)

namespace Heap

/-- The heap without cells. -/
def empty : Heap := ⟨#[]⟩

/-- The cell at an address. -/
def get (h : Heap) (a : Nat) : Cell := h.cells.getD a default

/-- Replaces the cell at an address. -/
def set (h : Heap) (a : Nat) (c : Cell) : Heap := ⟨h.cells.setIfInBounds a c⟩

/-- Adds a cell: a reference to it, and the larger heap. -/
def alloc (h : Heap) (c : Cell) : Value × Heap := (.ref h.cells.size, ⟨h.cells.push c⟩)

end Heap

mutual

/-- A value with every address moved up by `d`, as it reads in a heap placed after `d` other
cells. -/
def Value.shift (d : Nat) : Value → Value
  | .ref a => .ref (a + d)
  | .tuple xs => .tuple (Value.shiftAll d xs)
  | .named cls fields xs => .named cls fields (Value.shiftAll d xs)
  | .frozenset xs l => .frozenset (Value.shiftAll d xs) l
  | v => v

/-- Values with every address moved up by `d`. -/
def Value.shiftAll (d : Nat) : List Value → List Value
  | [] => []
  | x :: xs => Value.shift d x :: Value.shiftAll d xs

end

/-- A cell with every address it holds moved up by `d`. -/
def Cell.shift (d : Nat) : Cell → Cell
  | .list xs => .list (Value.shiftAll d xs)
  | .dict cls es factory => .dict cls (es.map fun (k, v) => (k.shift d, v.shift d)) (factory.shift d)
  | .set xs l => .set (Value.shiftAll d xs) l
  | .bytearray bs => .bytearray bs
  | .object cls args attrs => .object cls (Value.shiftAll d args) (attrs.map fun (k, v) => (k, v.shift d))
  | .iterator kind pending fault => .iterator kind (Value.shiftAll d pending) fault

/-- Two heaps as one, the second placed after the first, with a value of the second as it reads
there. -/
def Heap.append (h₁ h₂ : Heap) (v : Value) : Heap × Value :=
  let d := h₁.cells.size
  (⟨h₁.cells ++ h₂.cells.map (Cell.shift d)⟩, v.shift d)

/-- Runs an operation that reads the heap. -/
def reading {α : Type} (f : Heap → Except Raised α) : Act α := do
  match f (← get) with
  | .ok a => pure a
  | .error e => throw e

/-- Makes a cell: a reference to it. -/
def allocate (c : Cell) : Act Value := do
  let (v, h) := (← get).alloc c
  set h
  pure v

/-- The cell a reference points to. -/
def cellAt (a : Nat) : Act Cell := do pure ((← get).get a)

/-- Replaces the cell at an address. -/
def store (a : Nat) (c : Cell) : Act Unit := modify fun h => h.set a c

/-- The global names of the core classes. -/
def builtin (name : String) : Name := ⟨"builtins", name⟩

/-- A new list. -/
def newList (items : List Value) : Act Value := allocate (.list items)

/-- A new map of the built-in class. -/
def newDict (entries : List (Value × Value)) : Act Value :=
  allocate (.dict (builtin "dict") entries .none)

end ItemRecommender.Object
