import ItemRecommender.Object.Catalog.Modules
import ItemRecommender.Object.Catalog.Package
import ItemRecommender.Object.Catalog.Renamed
import ItemRecommender.Object.Catalog.Standard
import ItemRecommender.Text.Quoted
/-! # Finding the globals a dataset names

    A dataset names a class or function by a module and a name. Finding it takes three steps:

    1. a stream of version 0 to 2 may use an old name (`renamedGlobals`, `renamedModules`);
    2. the module is imported: each non-empty prefix of its dotted name must be an importable
       module, and the prefix before it a package, unless the longer name is itself a module
       (`importFault?`);
    3. the name is looked up in the module; from version 4 on it may be a dotted path through
       modules and classes. A missing name fails with the module as it shows itself.

    A module whose globals the catalogue does not list is taken to hold any name as a class. -/

namespace ItemRecommender.Object

open ItemRecommender.Text

/-- Every module whose globals are known. -/
def knownModules : List ModuleInfo := standardModules ++ packageModules

/-- Module names under which another module is imported. -/
def moduleAliases : List (String × String) := [("os.path", "posixpath")]

/-- The name of the module object that importing a dotted name gives. -/
def canonicalModule (name : String) : String := (moduleAliases.lookup name).getD name

/-- The module of a dotted name, if its globals are known. -/
def moduleInfo? (name : String) : Option ModuleInfo :=
  let name := canonicalModule name
  knownModules.find? (·.name == name)

/-- Whether a module can be imported: `some true` for a package, `some false` for a plain
module. -/
def importable? (name : String) : Option Bool :=
  if packageNames.contains name then some true
  else if moduleNames.contains name then some false
  else none

/-- How a module shows itself in messages. -/
def moduleText (name : String) : String :=
  let shown := match moduleInfo? name with
    | some m => m.shown
    | none => "from '/usr/local/lib/python3.11/" ++ String.intercalate "/" (name.splitOn ".") ++
        ".py'"
  "<module " ++ quote name ++ " " ++ shown ++ ">"

/-- The dotted prefixes of a module name, shortest first, skipping empty components. -/
def modulePrefixes (module : String) : List String :=
  let parts := module.splitOn "."
  ((List.range parts.length).map fun i => ".".intercalate (parts.take (i + 1))).filter
    fun p => !(p.splitOn ".").getLast!.isEmpty

/-- The error of importing a module, if it cannot be imported. -/
def importFault? (module : String) : Option Raised :=
  if module.isEmpty then some ⟨"ValueError", "Empty module name"⟩
  else
    let rec walk : Option String → List String → Option Raised
      | _, [] => none
      | parent, p :: rest =>
        match importable? p with
        | some _ => walk (some p) rest
        | none =>
          match parent with
          | some q =>
            if importable? q = some false then
              some ⟨"ModuleNotFoundError", "No module named " ++ quote p ++ "; " ++ quote q ++
                " is not a package"⟩
            else some ⟨"ModuleNotFoundError", "No module named " ++ quote p⟩
          | none => some ⟨"ModuleNotFoundError", "No module named " ++ quote p⟩
    walk none (modulePrefixes module)

/-- What a global is, following other names to the global they stand for; `fuel` bounds the
chain. -/
def kindOf? : Nat → Name → Option (Name × Kind)
  | 0, _ => none
  | fuel + 1, n =>
    match moduleInfo? n.module with
    | none => some (n, .cls n.name "type")
    | some m =>
      match m.globals.lookup n.name with
      | some (.alias target) => kindOf? fuel target
      | some k => some (n, k)
      | none => none

/-- What a global is, when the catalogue knows it. -/
def Name.kind? (n : Name) : Option Kind := (kindOf? 8 n).map Prod.snd

/-- The value a kind of global stands for, named `n`. -/
def Kind.toValue (n : Name) : Kind → Value
  | .module m => .module m
  | .constant v => v
  | _ => .global n

/-- An attribute of a module. -/
def moduleAttribute? (module attr : String) : Option Value :=
  match moduleInfo? module with
  | none => some (.global ⟨module, attr⟩)
  | some m =>
    match m.globals.lookup attr with
    | some (.alias target) => (kindOf? 8 target).map fun (n, k) => k.toValue n
    | some k => some (k.toValue ⟨module, attr⟩)
    | none => none

/-- The enumeration class of the pipeline's slots. -/
def slotClass : Name := ⟨"itemcf.pipeline_types", "Excluded"⟩

/-- The member of the slot class that marks a pruned slot. -/
def excludedMember : Value := .member slotClass "EXCLUDED"

/-- An attribute of a class: the members of an enumeration, the constructors of a class and
the alternative constructors of the core classes. -/
def classAttribute? (cls : Name) (attr : String) : Option Value :=
  if cls = slotClass ∧ attr = "EXCLUDED" then some excludedMember
  else if attr = "__new__" then some (.global ⟨cls.module, cls.name ++ ".__new__"⟩)
  else if attr = "__name__" ∨ attr = "__qualname__" then some (.str cls.name)
  else if attr = "__module__" then some (.str cls.module)
  else if cls.module = "builtins" ∧
      [("dict", "fromkeys"), ("int", "from_bytes"), ("bytes", "fromhex"), ("float", "fromhex"),
        ("bytearray", "fromhex"), ("str", "maketrans")].contains (cls.name, attr) then
    some (.global ⟨"builtins", cls.name ++ "." ++ attr⟩)
  else none

/-- The attribute a value holds, as a dotted path walks it: a module's global, or a class's
attribute. -/
def walkAttribute? (v : Value) (attr : String) : Option Value :=
  match v with
  | .module m => moduleAttribute? m attr
  | .global n =>
    match n.kind? with
    | some (.cls _ _) => classAttribute? n attr
    | _ => none
  | _ => none

/-- The global a stream names by module and name, as a stream of a version finds it. -/
def findGlobal (protocol : Nat) (module name : String) : Except Raised Value := do
  let (module, name) :=
    if protocol < 3 then
      match renamedGlobals.lookup (module, name) with
      | some renamed => renamed
      | none => ((renamedModules.lookup module).getD module, name)
    else (module, name)
  if let some r := importFault? module then throw r
  let module := canonicalModule module
  let missing : Raised :=
    ⟨"AttributeError", "Can't get attribute " ++ quote name ++ " on " ++ moduleText module⟩
  if 4 ≤ protocol then
    let parts := name.splitOn "."
    if parts.contains "<locals>" then
      throw ⟨"AttributeError", "Can't get local attribute " ++ quote name ++ " on " ++
        moduleText module⟩
    match parts.foldlM walkAttribute? (.module module) with
    | some v => pure v
    | none => throw missing
  else
    match moduleAttribute? module name with
    | some v => pure v
    | none => throw missing

/-- The type name the objects of a class show in messages. -/
def Name.display (n : Name) : String :=
  match n.kind? with
  | some (.cls display _) => display
  | _ => n.name

/-- The type name a global shows in messages. -/
def Name.typeName (n : Name) : String :=
  match n.kind? with
  | some (.cls _ metaclass) => metaclass
  | some .function => "function"
  | some .builtinFunction => "builtin_function_or_method"
  | some (.other t) => t
  | some (.module _) => "module"
  | some (.constant _) => "object"
  | some (.alias _) => "object"
  | none =>
    if (n.name.splitOn ".").length > 1 then "builtin_function_or_method" else "type"

/-- Whether a global is a class. -/
def Name.isClass (n : Name) : Bool :=
  match n.kind? with
  | some (.cls _ _) => true
  | _ => false

end ItemRecommender.Object
