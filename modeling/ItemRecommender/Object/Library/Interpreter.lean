import ItemRecommender.Object.Library.Arguments
/-! # The interpreter's settings

    The settings a dataset can ask the interpreter for are fixed: text is UTF-8, file names
    are UTF-8 with undecodable bytes kept as surrogates, integers convert to text up to 4300
    digits, calls nest up to 1000 deep, threads switch every 5 ms, and no trace or profile
    function is set. Interning a text gives the text itself; a cast gives its value
    unchanged. -/

namespace ItemRecommender.Object

open ItemRecommender.Text

/-- A setting of the interpreter, by the name of the function that reads it. -/
def interpreterSetting? (name : String) : Option Value :=
  match name with
  | "getdefaultencoding" => some (.str "utf-8")
  | "getfilesystemencoding" => some (.str "utf-8")
  | "getfilesystemencodeerrors" => some (.str "surrogateescape")
  | "get_int_max_str_digits" => some (.int 4300)
  | "getrecursionlimit" => some (.int 1000)
  | "getswitchinterval" => some (.float 0.005)
  | "is_finalizing" => some (.bool false)
  | "gettrace" => some .none
  | "getprofile" => some .none
  | _ => none

/-- A function of the interpreter's module or of the typing module, applied, or `none` for a
name they do not have. -/
def interpreterFunction (m name : String) (args : List Value) (kwargs : List (String × Value)) :
    Option (Act Value) :=
  if m = "sys" then
    match interpreterSetting? name with
    | some v => some do
      if !kwargs.isEmpty then throw (keywordsRefused ("sys." ++ name))
      if !args.isEmpty then
        throw ⟨"TypeError", "sys." ++ name ++ "() takes no arguments (" ++ toString args.length ++
          " given)"⟩
      pure v
    | none =>
      match name with
      | "intern" => some do
        if !kwargs.isEmpty then throw (keywordsRefused "sys.intern")
        match args with
        | [.str s] => pure (.str s)
        | [x] => throw ⟨"TypeError", "intern() argument must be str, not " ++ x.typeName (← get)⟩
        | _ => throw (singleFault "sys.intern" args.length)
      | _ => none
  else if m = "typing" ∧ name = "cast" then some do
    match ← reading fun _ => bindParameters "cast()" [required "typ", required "val"] args kwargs with
    | [_, some v] => pure v
    | _ => pure .none
  else none

end ItemRecommender.Object
