import ItemRecommender.Object.Operator
/-! # Arguments of library functions

    How a call's positional and keyword arguments meet a function's parameters, with the errors
    of a call that does not fit, in the three shapes the library's functions have:

    * a function written in the language binds by name and position, and names what is missing
      or extra (`bindParameters`);
    * a built-in function with a fixed signature checks only the count of its positional
      arguments (`countFault`), or takes exactly one (`singleFault`);
    * a built-in function with keywords binds like the first but words its errors by the
      position of each parameter (`bindKeywords`).

    Each binding gives every parameter its argument, or `none` where it keeps its default. -/

namespace ItemRecommender.Object

open ItemRecommender.Text

/-- A parameter: its name, whether it has a default, and whether it is keyword-only. -/
structure Parameter where
  name : String
  optional : Bool := false
  keywordOnly : Bool := false

/-- A required positional parameter. -/
def required (name : String) : Parameter := ⟨name, false, false⟩

/-- A positional parameter with a default. -/
def optional (name : String) : Parameter := ⟨name, true, false⟩

/-- A keyword-only parameter with a default. -/
def keyword (name : String) : Parameter := ⟨name, true, true⟩

/-- The arguments of a function written in the language, bound to its parameters: the value of
each, or `none` for one left to its default. The errors name the function as `callee`, with
its parentheses. -/
def bindParameters (callee : String) (params : List Parameter) (args : List Value)
    (kwargs : List (String × Value)) : Except Raised (List (Option Value)) := do
  let positional := params.filter (!·.keywordOnly)
  let needed := (positional.filter (!·.optional)).length
  for (k, _) in kwargs do
    match params.findIdx? (·.name = k) with
    | none => throw ⟨"TypeError", callee ++ " got an unexpected keyword argument " ++ quote k⟩
    | some i =>
      if i < args.length then
        throw ⟨"TypeError", callee ++ " got multiple values for argument " ++ quote k⟩
  if positional.length < args.length then
    let takes :=
      if needed = positional.length then
        toString positional.length ++
          (if positional.length = 1 then " positional argument" else " positional arguments")
      else "from " ++ toString needed ++ " to " ++ toString positional.length ++
        " positional arguments"
    throw ⟨"TypeError", callee ++ " takes " ++ takes ++ " but " ++ toString args.length ++
      (if args.length = 1 then " was given" else " were given")⟩
  let indexed := params.zipIdx
  let missing := indexed.filter fun (p, i) =>
    !p.optional ∧ !p.keywordOnly ∧ args.length ≤ i ∧ (kwargs.lookup p.name).isNone
  if !missing.isEmpty then
    let n := missing.length
    throw ⟨"TypeError", callee ++ " missing " ++ toString n ++ " required positional argument" ++
      (if n = 1 then "" else "s") ++ ": " ++ nameList (missing.map fun (p, _) => p.name)⟩
  pure (indexed.map fun (p, i) =>
    match (if p.keywordOnly then none else args[i]?), kwargs.lookup p.name with
    | some v, _ => some v
    | none, some v => some v
    | none, none => none)

/-- The error of a built-in function given a count of positional arguments outside `lo` to
`hi`, or `none` when the count fits. -/
def countFault (name : String) (lo hi n : Nat) : Option Raised :=
  let word (k : Nat) := toString k ++ (if k = 1 then " argument" else " arguments")
  if n < lo then
    some ⟨"TypeError", name ++ " expected " ++ (if lo = hi then "" else "at least ") ++ word lo ++
      ", got " ++ toString n⟩
  else if hi < n then
    some ⟨"TypeError", name ++ " expected " ++ (if lo = hi then "" else "at most ") ++ word hi ++
      ", got " ++ toString n⟩
  else none

/-- The error of a built-in function of one argument given another count; `shown` is how the
function names itself. -/
def singleFault (shown : String) (n : Nat) : Raised :=
  ⟨"TypeError", shown ++ "() takes exactly one argument (" ++ toString n ++ " given)"⟩

/-- The error of a built-in function that takes no keyword arguments. -/
def keywordsRefused (name : String) : Raised :=
  ⟨"TypeError", name ++ "() takes no keyword arguments"⟩

/-- The arguments of a built-in function with keywords, bound to its parameters. The checks
come in a fixed order: the count of all arguments, the count of positional ones, a required
parameter left without one, a parameter given both ways, and last a keyword that names no
parameter. -/
def bindKeywords (name : String) (params : List Parameter) (args : List Value)
    (kwargs : List (String × Value)) : Except Raised (List (Option Value)) := do
  let positional := params.filter (!·.keywordOnly)
  let needed := (positional.filter (!·.optional)).length
  let given := args.length + kwargs.length
  if params.length < given then
    throw ⟨"TypeError", name ++ "() takes at most " ++ toString params.length ++ " " ++
      (if args.isEmpty then "keyword " else "") ++ "argument" ++
      (if params.length = 1 then "" else "s") ++ " (" ++ toString given ++ " given)"⟩
  if positional.length < args.length then
    if positional.isEmpty then throw ⟨"TypeError", name ++ "() takes no positional arguments"⟩
    throw ⟨"TypeError", name ++ "() takes " ++
      (if needed = positional.length then "exactly " else "at most ") ++
      toString positional.length ++ " positional argument" ++
      (if positional.length = 1 then "" else "s") ++ " (" ++ toString args.length ++ " given)"⟩
  let indexed := params.zipIdx
  match indexed.find? fun (p, i) =>
      !p.optional ∧ args.length ≤ i ∧ (kwargs.lookup p.name).isNone with
  | some (p, i) =>
    throw ⟨"TypeError", name ++ "() missing required argument " ++ quote p.name ++ " (pos " ++
      toString (i + 1) ++ ")"⟩
  | none => pure ()
  let unused := kwargs.filter fun (k, _) =>
    match params.findIdx? (·.name = k) with
    | some i => i < args.length
    | none => true
  if !unused.isEmpty then
    match indexed.find? fun (p, i) => i < args.length ∧ (kwargs.lookup p.name).isSome with
    | some (p, i) =>
      throw ⟨"TypeError", "argument for " ++ name ++ "() given by name (" ++ quote p.name ++
        ") and position (" ++ toString (i + 1) ++ ")"⟩
    | none => pure ()
    match unused.head? with
    | some (k, _) =>
      throw ⟨"TypeError", quote k ++ " is an invalid keyword argument for " ++ name ++ "()"⟩
    | none => pure ()
  pure (indexed.map fun (p, i) =>
    match (if p.keywordOnly then none else args[i]?), kwargs.lookup p.name with
    | some v, _ => some v
    | none, some v => some v
    | none, none => none)

/-- The arguments of a built-in function with keywords whose first `leading` parameters are
given by position only: when one of those is left without an argument the error counts the
positional arguments; otherwise the arguments bind as `bindKeywords` binds them. -/
def bindPositionalFirst (name : String) (leading : Nat) (params : List Parameter)
    (args : List Value) (kwargs : List (String × Value)) : Except Raised (List (Option Value)) := do
  let positional := params.filter (!·.keywordOnly)
  let least := min leading (positional.filter (!·.optional)).length
  if args.length + kwargs.length ≤ params.length ∧ args.length ≤ positional.length ∧
      args.length < least then
    throw ⟨"TypeError", name ++ "() takes " ++
      (if least < positional.length then "at least " else "exactly ") ++ toString least ++
      " positional argument" ++ (if least = 1 then "" else "s") ++ " (" ++
      toString args.length ++ " given)"⟩
  bindKeywords name params args kwargs

/-! ## Arithmetic as the language computes it -/

/-- `a + b`. -/
def Value.plus (a b : Value) : Act Value := a.combine .add b

/-- `a * b`. -/
def Value.times (a b : Value) : Act Value := a.combine .mul b

/-- `a - b`. -/
def Value.minus (a b : Value) : Act Value := do pure ((← a.binary .sub b).getD .none)

/-- `a / b`. -/
def Value.over (a b : Value) : Act Value := do pure ((← a.binary .trueDiv b).getD .none)

/-- `a // b`. -/
def Value.floorOver (a b : Value) : Act Value := do pure ((← a.binary .floorDiv b).getD .none)

/-- `a % b`. -/
def Value.modulo (a b : Value) : Act Value := do pure ((← a.binary .mod b).getD .none)

/-- `a < b`. -/
def Value.lessThan (a b : Value) : Act Bool := reading fun h => a.compare h .lt b

/-- `a <= b`. -/
def Value.atMost (a b : Value) : Act Bool := reading fun h => a.compare h .le b

/-- `a == b`. -/
def Value.equalTo (a b : Value) : Act Bool := reading fun h => Value.equals h a b

/-- The greatest (or least) of values, the first of equals, comparing each with `>` (or `<`)
against the best so far. -/
def Value.extreme (greatest : Bool) (first : Value) (rest : List Value) : Act Value := do
  let h ← get
  reading fun _ => rest.foldlM (fun best x => do
    if ← (if greatest then x.compare h .gt best else x.compare h .lt best) then pure x
    else pure best) first

end ItemRecommender.Object
