import ItemRecommender.Object.Library.Codecs
import ItemRecommender.Object.Mapping
import ItemRecommender.Text.Normalization
import ItemRecommender.Text.NumericValues
/-!
# The character database

The functions of the character database: the name of a character and the characters a name
stands for, its general category, bidirectional class, East Asian width, combining class,
whether it is mirrored, its decomposition and the number it stands for, and the normal forms of
a text (`Text.normalize`).

A character argument must be a text of exactly one character. The functions of a character
alone take exactly one argument; `name`, `decimal`, `digit` and `numeric` take a default as a
second, returned where the character has no value, and without one raise a `ValueError`. None
takes keyword arguments. A name to look up is a text or a byte string; one longer than 256
bytes is refused, and a name that stands for nothing is shown in the error up to its first
zero byte.

The normal form functions check their arguments' types first and the form's name last, and an
empty text is returned (or counted normal) whatever the form.
-/

namespace ItemRecommender.Object

open ItemRecommender.Text

/-- The error of a character argument of a function that is not a text of one character;
`position` is how the function names the argument. -/
def notCharacter (function position shown : String) : Raised :=
  ⟨"TypeError", function ++ "() " ++ position ++ " must be a unicode character, not " ++ shown⟩

/-- The code point of a character argument. -/
def characterArgument (h : Heap) (function position : String) (v : Value) : Except Raised Nat :=
  match v with
  | .str s =>
    match s.toList with
    | [c] => pure (codePoint c)
    | _ => throw (notCharacter function position "str")
  | _ => throw (notCharacter function position (v.typeName h))

/-- A function of one character. -/
def ofCharacter (function : String) (args : List Value) (kwargs : List (String × Value))
    (f : Nat → Value) : Act Value := do
  if !kwargs.isEmpty then throw (keywordsRefused ("unicodedata." ++ function))
  match args with
  | [x] => pure (f (← reading fun h => characterArgument h function "argument" x))
  | _ => throw (singleFault ("unicodedata." ++ function) args.length)

/-- A function of a character with an optional default, which it returns where `f` has no
value; without a default that raises a `ValueError` saying `fault`. -/
def ofCharacterOr (function fault : String) (args : List Value) (kwargs : List (String × Value))
    (f : Nat → Option Value) : Act Value := do
  if !kwargs.isEmpty then throw (keywordsRefused ("unicodedata." ++ function))
  if let some e := countFault function 1 2 args.length then throw e
  match args with
  | x :: rest =>
    let n ← reading fun h => characterArgument h function "argument 1" x
    match f n, rest with
    | some v, _ => pure v
    | none, d :: _ => pure d
    | none, [] => throw ⟨"ValueError", fault⟩
  | [] => throw ⟨"ValueError", fault⟩

/-- The bytes of a name to look up: a text's UTF-8 encoding, or a byte string. -/
def nameBytes (h : Heap) (v : Value) : Except Raised (List UInt8) :=
  match v with
  | .str s => Encoding.utf8.encodeWith .strict s
  | .bytes bs => pure bs
  | .ref a =>
    match h.get a with
    | .bytearray _ =>
      throw ⟨"TypeError", "lookup() argument must be read-only bytes-like object, not bytearray"⟩
    | _ => throw ⟨"TypeError", "a bytes-like object is required, not " ++ quote (v.typeName h)⟩
  | _ => throw ⟨"TypeError", "a bytes-like object is required, not " ++ quote (v.typeName h)⟩

/-- The longest name the database looks up, in bytes. -/
def longestName : Nat := 256

/-- The characters a name stands for. -/
def lookupName (args : List Value) (kwargs : List (String × Value)) : Act Value := do
  if !kwargs.isEmpty then throw (keywordsRefused "unicodedata.lookup")
  match args with
  | [x] =>
    let bytes ← reading fun h => nameBytes h x
    if longestName < bytes.length then
      throw (missingKey (← get) (.str "name too long"))
    match characterOfName? (String.ofList (decodeReplacing bytes)) with
    | some codes => pure (.str (String.ofList (codes.map ofCodePoint)))
    | none =>
      let shown := String.ofList (decodeReplacing (bytes.takeWhile (· ≠ 0)))
      throw (missingKey (← get) (.str ("undefined character name '" ++ shown ++ "'")))
  | _ => throw (singleFault "unicodedata.lookup" args.length)

/-- A function of a normal form's name and a text; `f` gets the form and the text's code
points. -/
def withNormalForm (function : String) (args : List Value) (kwargs : List (String × Value))
    (empty : Value) (f : NormalForm → List Nat → Value) : Act Value := do
  if !kwargs.isEmpty then throw (keywordsRefused ("unicodedata." ++ function))
  if let some e := countFault function 2 2 args.length then throw e
  let h ← get
  match args with
  | [form, text] =>
    let some name := (match form with | .str s => some s | _ => none)
      | throw ⟨"TypeError", function ++ "() argument 1 must be str, not " ++ form.typeName h⟩
    let some s := (match text with | .str s => some s | _ => none)
      | throw ⟨"TypeError", function ++ "() argument 2 must be str, not " ++ text.typeName h⟩
    if s.isEmpty then return empty
    match NormalForm.ofName? name with
    | some nf => pure (f nf (codePoints s))
    | none => throw ⟨"ValueError", "invalid normalization form"⟩
  | _ => throw ⟨"ValueError", "invalid normalization form"⟩

/-- A text of code points. -/
def textOfCodes (codes : List Nat) : Value := .str (String.ofList (codes.map ofCodePoint))

/-- A function of the character database applied, or `none` for another function. -/
def characterDataFunction (m name : String) (args : List Value) (kwargs : List (String × Value)) :
    Option (Act Value) :=
  if m ≠ "unicodedata" then none
  else match name with
    | "name" => some (ofCharacterOr "name" "no such name" args kwargs fun n =>
        (characterName? n).map .str)
    | "lookup" => some (lookupName args kwargs)
    | "category" => some (ofCharacter "category" args kwargs fun n => .str (generalCategory n))
    | "bidirectional" => some (ofCharacter "bidirectional" args kwargs fun n => .str (bidiClass n))
    | "east_asian_width" => some (ofCharacter "east_asian_width" args kwargs fun n =>
        .str (eastAsianWidth n))
    | "combining" => some (ofCharacter "combining" args kwargs fun n =>
        .int (combiningClass n))
    | "mirrored" => some (ofCharacter "mirrored" args kwargs fun n =>
        .int (if isMirrored n then 1 else 0))
    | "decomposition" => some (ofCharacter "decomposition" args kwargs fun n =>
        .str (decompositionOf n))
    | "decimal" => some (ofCharacterOr "decimal" "not a decimal" args kwargs fun n =>
        (decimalDigitValue? n).map .int)
    | "digit" => some (ofCharacterOr "digit" "not a digit" args kwargs fun n =>
        (digitValue? n).map .int)
    | "numeric" => some (ofCharacterOr "numeric" "not a numeric character" args kwargs fun n =>
        (characterNumber? n).map fun v => .float v.toFloat)
    | "normalize" => some (withNormalForm "normalize" args kwargs (.str "") fun nf codes =>
        textOfCodes (normalize nf codes))
    | "is_normalized" => some (withNormalForm "is_normalized" args kwargs (.bool true)
        fun nf codes => .bool (normalize nf codes == codes))
    | _ => none

end ItemRecommender.Object
