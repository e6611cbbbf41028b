import ItemRecommender.Object.Classes
/-! # Type names

    Every value shows a type name in messages: the name of a core class (`int`, `list`), the
    module-qualified name of a class implemented in the core of another module
    (`decimal.Decimal`, `collections.OrderedDict`), or the bare name of a class written in the
    language (`Fraction`, `UserVector`). Classes show the name of their own class (`type`), and
    functions `function` or `builtin_function_or_method`. -/

namespace ItemRecommender.Object

/-- The class of an iterator of a kind: a generator's kind names the function after the word
`generator`. -/
def iteratorClass (kind : String) : String :=
  if kind.startsWith "generator " then "generator" else kind

/-- The type name of a cell. -/
def Cell.typeName : Cell → String
  | .list _ => "list"
  | .dict cls _ _ => cls.display
  | .set .. => "set"
  | .bytearray _ => "bytearray"
  | .object cls _ _ => cls.display
  | .iterator kind _ _ => iteratorClass kind

/-- The type name of a value, as messages show it. -/
def Value.typeName (h : Heap) : Value → String
  | .none => "NoneType"
  | .bool _ => "bool"
  | .int _ => "int"
  | .float _ => "float"
  | .double _ => "numpy.float64"
  | .complex _ _ => "complex"
  | .decimal _ => "decimal.Decimal"
  | .fraction _ _ => "Fraction"
  | .str _ => "str"
  | .bytes _ => "bytes"
  | .tuple _ => "tuple"
  | .named cls _ _ => cls.display
  | .frozenset .. => "frozenset"
  | .range _ _ _ => "range"
  | .global n => n.typeName
  | .module _ => "module"
  | .member cls _ => cls.display
  | .ref a => (h.get a).typeName

/-- The class of a global: the metaclass of a class, the class of functions of the language or
of the core, or the class of another object. -/
def Name.classOf (n : Name) : Name :=
  match n.kind? with
  | some (.cls _ "ABCMeta") => ⟨"abc", "ABCMeta"⟩
  | some (.cls _ "EnumType") => ⟨"enum", "EnumType"⟩
  | some (.cls _ "ModelMetaclass") => ⟨"pydantic._internal._model_construction", "ModelMetaclass"⟩
  | some (.cls _ "_DTypeMeta") => ⟨"numpy", "_DTypeMeta"⟩
  | some (.cls _ "type") => builtin "type"
  | some (.cls _ m) => ⟨"typing", m⟩
  | some .function => builtin "function"
  | some .builtinFunction => builtin "builtin_function_or_method"
  | some (.module _) => builtin "module"
  | some (.other t) => builtin t
  | _ => builtin "type"

/-- The class of a value, by its global name. -/
def Value.classOf (h : Heap) : Value → Name
  | .none => builtin "NoneType"
  | .bool _ => builtin "bool"
  | .int _ => builtin "int"
  | .float _ => builtin "float"
  | .double _ => ⟨"numpy", "float64"⟩
  | .complex _ _ => builtin "complex"
  | .decimal _ => ⟨"decimal", "Decimal"⟩
  | .fraction _ _ => ⟨"fractions", "Fraction"⟩
  | .str _ => builtin "str"
  | .bytes _ => builtin "bytes"
  | .tuple _ => builtin "tuple"
  | .named cls _ _ => cls
  | .frozenset .. => builtin "frozenset"
  | .range _ _ _ => builtin "range"
  | .global n => n.classOf
  | .module _ => builtin "module"
  | .member cls _ => cls
  | .ref a =>
    match h.get a with
    | .list _ => builtin "list"
    | .dict cls _ _ => cls
    | .set .. => builtin "set"
    | .bytearray _ => builtin "bytearray"
    | .object cls _ _ => cls
    | .iterator kind _ _ => builtin (iteratorClass kind)

end ItemRecommender.Object
