import ItemRecommender.Object.Value
import ItemRecommender.Text.CodeTable
/-! # What a module's global is

    Every name a module holds stands for a module, a class, a function, a constant, another name
    for a global of another module, or some other object known only by its type. A class
    carries two type names: the one its objects show in messages, and the one the class itself
    shows (the class of classes it belongs to). -/

namespace ItemRecommender.Object

/-- What a global of a module stands for. -/
inductive Kind where
  /-- A module, by its full dotted name. -/
  | module (name : String)
  /-- A class: the type name of its objects, and the type name of the class. -/
  | cls (display metaclass : String)
  /-- A function written in the language. -/
  | function
  /-- A function of the core. -/
  | builtinFunction
  /-- A constant value. -/
  | constant (v : Value)
  /-- The global of the same object in the module that defines it. -/
  | alias (target : Name)
  /-- Another object, known by its type name. -/
  | other (typeName : String)
  deriving Inhabited

/-- A text written in a directory entry read back: `%` and two hexadecimal digits stand for the
character of that code, so that a text may hold the blanks, commas, slashes and line breaks that
separate entries and fields. -/
def entryText : List Char → List Char
  | '%' :: a :: b :: rest => Char.ofNat (Text.hexNumber [a, b]) :: entryText rest
  | c :: rest => c :: entryText rest
  | [] => []

/-- The kind a code of a directory entry stands for, the entry's name being `name`. The code's
fields are separated by commas: `f` a function; `c` a class, then perhaps the type name of its
objects (its own name when left empty) and the type name of the class (`type` when left out);
`m` a module, then perhaps its dotted name (the entry's own by default); `a` another name for
the global of a module, then the module and the name; `o` another object, then its type name.
The other codes are constants: `n` nothing, `b` a truth value (`1` for true), `i` an integer by
its digits, `x` a float by the bits of its binary form, `s` a text (`entryText`), and `e` the
member of an enumeration, by the module and name of its class and its own name. Any other code
is a core function. -/
def Kind.ofCode (name : String) (code : List String) : Kind :=
  let orName (s : String) := if s.isEmpty then name else s
  let text (s : String) := String.ofList (entryText s.toList)
  match code with
  | ["f"] => .function
  | ["c"] => .cls name "type"
  | ["c", d] => .cls (orName d) "type"
  | ["c", d, t] => .cls (orName d) t
  | ["m"] => .module name
  | ["m", n] => .module n
  | ["a", m, n] => .alias ⟨m, n⟩
  | ["o", t] => .other t
  | ["n"] => .constant .none
  | ["b", v] => .constant (.bool (v == "1"))
  | ["i", digits] => .constant (.int (digits.toInt?.getD 0))
  | ["x", bits] => .constant (.float (Float.ofBits (bits.toNat?.getD 0).toUInt64))
  | ["s", t] => .constant (.str (text t))
  | ["e", m, c, n] => .constant (.member ⟨text m, text c⟩ (text n))
  | _ => .builtinFunction

/-- The globals a directory lists: entries separated by blanks, each a name and, after a slash,
the code of its kind (`Kind.ofCode`); a name alone is a core function. -/
def directory (lines : List String) : List (String × Kind) :=
  ((lines.flatMap (·.splitOn " ")).filter (!·.isEmpty)).map fun entry =>
    match entry.splitOn "/" with
    | name :: code :: _ => (name, Kind.ofCode name (code.splitOn ","))
    | _ => (entry, .builtinFunction)

/-- A module: its dotted name, whether it is a package, how it shows itself after its name in
messages, and its globals. -/
structure ModuleInfo where
  name : String
  package : Bool
  shown : String
  globals : List (String × Kind)

/-- The modules a table describes: one line a module, holding its dotted name, `1` for a package
(`0` for a plain module), how it shows itself and its directory (`directory`), separated by
tabs. -/
def moduleTable (table : String) : List ModuleInfo :=
  (table.splitOn "\n").filterMap fun line =>
    match line.splitOn "\t" with
    | [name, package, shown, entries] => some ⟨name, package == "1", shown, directory [entries]⟩
    | _ => none

end ItemRecommender.Object
