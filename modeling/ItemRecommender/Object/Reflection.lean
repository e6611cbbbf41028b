import ItemRecommender.Object.Construct
/-! # Attributes and classes of objects

    The functions of the core that look at an object's attributes and class:

    * an object made of a class keeps its attributes in the order they were set; setting one
      that is there keeps its place. A frozen record refuses to change, the plain `object`
      holds no attributes, and a value of the core (a number, a text, a container) has none to
      set. Setting an attribute of a class of the core fails, of any other class or module it
      is not kept.
    * `vars` gives the attributes of an object that has them, as a new map;
    * `callable` holds for classes, functions and the function objects of the operator and
      function modules;
    * `issubclass` follows the bases of classes;
    * `__import__` finds a module by its dotted name and gives its top package. -/

namespace ItemRecommender.Object

open ItemRecommender.Text

/-- Attributes with one set: an attribute that is there keeps its place. -/
def setAttribute (attrs : List (String × Value)) (k : String) (v : Value) : List (String × Value) :=
  if attrs.any (·.1 = k) then attrs.map fun (k', v') => if k' = k then (k', v) else (k', v')
  else attrs ++ [(k, v)]

/-- The name of an attribute, which must be a text. -/
def attributeName (h : Heap) (v : Value) : Except Raised String :=
  match v with
  | .str s => pure s
  | _ => throw ⟨"TypeError", "attribute name must be string, not '" ++ v.typeName h ++ "'"⟩

/-- Whether a value has an attribute: looking it up fails with an attribute error when not. -/
def Value.hasAttribute (v : Value) (name : String) : Act Bool :=
  tryCatch (do let _ ← v.attribute name; pure true) fun r =>
    if r.kind = "AttributeError" then pure false else throw r

/-- The error of changing an attribute of a class of the core. -/
def immutableType (name : String) (cls : Name) : Raised :=
  ⟨"TypeError", "cannot set " ++ quote name ++ " attribute of immutable type " ++ quote cls.name⟩

/-- Sets an attribute of a value. -/
def Value.setAttributeTo (v : Value) (name : String) (x : Value) : Act Unit := do
  let h ← get
  match v with
  | .ref a =>
    match h.get a with
    | .object cls args attrs =>
      if (recordClass? cls).any (·.frozen) then
        throw ⟨"FrozenInstanceError", "cannot assign to field " ++ quote name⟩
      else if cls = builtin "object" then throw (noAttribute h v name)
      else store a (.object cls args (setAttribute attrs name x))
    | _ => throw (noAttribute h v name)
  | .global n =>
    if n.module = "builtins" ∧ n.isClass then throw (immutableType name n) else pure ()
  | .module _ | .member .. => pure ()
  | _ => throw (noAttribute h v name)

/-- Deletes an attribute of a value. -/
def Value.deleteAttribute (v : Value) (name : String) : Act Unit := do
  let h ← get
  match v with
  | .ref a =>
    match h.get a with
    | .object cls args attrs =>
      if (recordClass? cls).any (·.frozen) then
        throw ⟨"FrozenInstanceError", "cannot delete field " ++ quote name⟩
      else if attrs.any (·.1 = name) then store a (.object cls args (attrs.filter (·.1 ≠ name)))
      else throw (noAttribute h v name)
    | _ => throw (noAttribute h v name)
  | .global n =>
    if n.module = "builtins" ∧ n.isClass then throw (immutableType name n)
    else throw (noAttribute h v name)
  | _ => throw (noAttribute h v name)

/-- The attributes of an object as a new map, for an object that keeps attributes. -/
def Value.attributeMap (v : Value) : Act Value := do
  let h ← get
  let refused : Raised := ⟨"TypeError", "vars() argument must have __dict__ attribute"⟩
  match v with
  | .ref a =>
    match h.get a with
    | .object cls _ attrs =>
      if cls = builtin "object" then throw refused
      else newDict (attrs.map fun (k, x) => (.str k, x))
    | _ => throw refused
  | _ => throw refused

/-- The classes outside the core whose objects can be called. -/
def callableClasses : List Name :=
  [⟨"functools", "partial"⟩, ⟨"operator", "itemgetter"⟩, ⟨"operator", "attrgetter"⟩,
    ⟨"operator", "methodcaller"⟩]

/-- Whether a value can be called. -/
def Value.isCallable (h : Heap) (v : Value) : Bool :=
  match v with
  | .global n =>
    match n.kind? with
    | some (.module _) | some (.constant _) => false
    | _ => true
  | .ref a =>
    match h.get a with
    | .object cls _ _ => callableClasses.contains cls
    | _ => false
  | _ => false

/-- Whether a class derives from a class, or from one of a tuple of them; classes are globals,
and anything else fails as `issubclass` reports it. -/
def subclassOf (cls : Value) (base : Value) : Except Raised Bool := do
  let some c := (match cls with
      | .global n => if n.isClass then some n else none
      | _ => none) | throw ⟨"TypeError", "issubclass() arg 1 must be a class"⟩
  let bad : Raised :=
    ⟨"TypeError", "issubclass() arg 2 must be a class, a tuple of classes, or a union"⟩
  let rec within : Nat → Value → Except Raised Bool
    | 0, _ => throw (nestingFault " in __subclasscheck__")
    | fuel + 1, b =>
      match b with
      | .global n => if n.isClass then pure (Name.derivesFrom n 64 c) else throw bad
      | .tuple bs | .named _ _ bs => bs.anyM (within fuel)
      | _ => throw bad
  within nestingLimit base

/-- The module `__import__` gives for a dotted name: the top package, once every prefix of the
name is found. -/
def importedModule (v : Value) : Except Raised Value := do
  match v with
  | .str name =>
    if let some r := importFault? name then throw r
    pure (.module ((name.splitOn ".").headD name))
  | _ => throw ⟨"TypeError", "module name must be a string"⟩

end ItemRecommender.Object
