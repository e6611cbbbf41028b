import ItemRecommender.Object.Library.Arguments
import ItemRecommender.Object.Arithmetic
import ItemRecommender.Object.Repr
import ItemRecommender.Text.Wrapping
/-!
# Paragraphs

The functions of the text-wrapping module on values (`Text.WrapStyle`): `wrap` gives the lines
of a paragraph, `fill` joins them, `shorten` collapses a text's blanks and cuts it to one line,
`dedent` removes the margin common to a text's lines and `indent` puts a prefix before the lines
a test picks.

The keyword arguments past a function's own make its style, each named as the style's option:
the width, the two indents, whether tabs are expanded and blanks replaced, whether sentence ends
are fixed, long words broken and blanks dropped, whether words are cut at hyphens (only when
the option is `True` itself; a long word is cut after a hyphen when it counts as true), the tab
size, the most count of lines and the placeholder. A text that is not a string fails at the
first operation that needs one; the width is checked after the text.
-/

namespace ItemRecommender.Object

open ItemRecommender.Text

/-- The options of a paragraph's style, in the order they may be given by position. -/
def styleParameters : List Parameter :=
  [optional "width", optional "initial_indent", optional "subsequent_indent",
    optional "expand_tabs", optional "replace_whitespace", optional "fix_sentence_endings",
    optional "break_long_words", optional "drop_whitespace", optional "break_on_hyphens",
    optional "tabsize", keyword "max_lines", keyword "placeholder"]

/-- The characters of a text option; anything else has no length. -/
def textOption (h : Heap) (v : Value) : Except Raised (List Char) :=
  match v with
  | .str s => pure s.toList
  | _ => throw ⟨"TypeError", "object of type " ++ quote (v.typeName h) ++ " has no len()"⟩

/-- The whole number of an integer option; `fault` words the error from the type's name. -/
def wholeOption (h : Heap) (v : Value) (fault : String → Raised) : Except Raised Int :=
  match v with
  | .int i => pure i
  | .bool b => pure (if b then 1 else 0)
  | _ => throw (fault (v.typeName h))

/-- A flag of the style: its value's truth, or its default. -/
def flagOf (v : Option Value) (fallback : Bool) : Act Bool :=
  match v with
  | some x => x.truthy
  | none => pure fallback

/-- The error of a width that is not positive. -/
def invalidWidth (h : Heap) (width : Value) : Raised :=
  ⟨"ValueError", "invalid width " ++ ((width.repr h).toOption.getD "") ++ " (must be > 0)"⟩

/-- The style of a paragraph from a width and the options given by name, with the characters of
the text when it is one. Raises what reading a text that is not a string raises, then the
errors of the width and of the options. -/
def styleFor (callee : String) (width : Value) (options : List (String × Value)) (text : Value) :
    Act (WrapStyle × List Char) := do
  let bound ← reading fun _ => bindParameters callee styleParameters []
    (("width", width) :: options)
  let opt (i : Nat) : Option Value := (bound[i]?).join
  let expand ← flagOf (opt 3) true
  let replace ← flagOf (opt 4) true
  let h ← get
  let isBytes := (bytesOf? h text).isSome
  match text with
  | .str _ => pure ()
  | _ =>
    if !isBytes then
      let shown := quote (text.typeName h)
      if expand then throw ⟨"AttributeError", shown ++ " object has no attribute 'expandtabs'"⟩
      else if replace then
        throw ⟨"AttributeError", shown ++ " object has no attribute 'translate'"⟩
      else throw ⟨"TypeError", "expected string or bytes-like object, got " ++ shown⟩
  let tabSize ← match opt 9, expand with
    | some v, true => reading fun h => wholeOption h v fun t =>
        ⟨"TypeError", quote t ++ " object cannot be interpreted as an integer"⟩
    | _, _ => pure 8
  let chars ← match text with
    | .str s => pure s.toList
    | _ =>
      if replace then throw ⟨"TypeError", "a bytes-like object is required, not 'dict'"⟩
      else throw ⟨"TypeError", "cannot use a string pattern on a bytes-like object"⟩
  let (w, whole) ← match width with
    | .int i => pure (i, true)
    | .bool b => pure ((if b then 1 else 0 : Int), true)
    | .float x =>
      if x ≤ 0 then throw (invalidWidth h width)
      else pure ((Float.floor x).toInt64.toInt, false)
    | _ => throw ⟨"TypeError", "'<=' not supported between instances of " ++
        quote (width.typeName h) ++ " and 'int'"⟩
  let maxLines ← match opt 10 with
    | none | some .none => pure none
    | some v => reading fun h => (wholeOption h v fun t =>
        ⟨"TypeError", "'>' not supported between instances of " ++ quote t ++ " and 'int'"⟩).map some
  let placeholder ← match opt 11, maxLines with
    | some (.str s), _ => pure s.toList
    | some v, some _ =>
      throw ⟨"AttributeError", quote (v.typeName h) ++ " object has no attribute 'lstrip'"⟩
    | _, _ => pure " [...]".toList
  let initial ← match opt 1 with
    | some v => reading fun h => textOption h v
    | none => pure []
  let subsequent ← match opt 2 with
    | some v => reading fun h => textOption h v
    | none => pure []
  let hyphens := match opt 8 with
    | some (.bool b) => b
    | some _ => false
    | none => true
  let style : WrapStyle :=
    { width := w, wholeWidth := whole, initialIndent := initial, subsequentIndent := subsequent,
      expandTabs := expand, replaceWhitespace := replace,
      fixSentenceEndings := ← flagOf (opt 5) false, breakLongWords := ← flagOf (opt 6) true,
      dropWhitespace := ← flagOf (opt 7) true, splitAtHyphens := hyphens,
      breakOnHyphens := ← flagOf (opt 8) true, tabSize := tabSize, maxLines := maxLines,
      placeholder := placeholder }
  pure (style, chars)

/-- The error a paragraph that cannot be wrapped raises. -/
def wrapFault (h : Heap) (width : Value) : WrapError → Raised
  | .invalidWidth => invalidWidth h width
  | .placeholderTooLarge => ⟨"ValueError", "placeholder too large for max width"⟩
  | .fractionalCut =>
    ⟨"TypeError", "slice indices must be integers or None or have an __index__ method"⟩

/-- The result of wrapping, or its error raised. -/
def wrapped {α : Type} (width : Value) (r : Except WrapError α) : Act α := do
  match r with
  | .ok a => pure a
  | .error e => throw (wrapFault (← get) width e)

/-- The text and the width given to a wrapping function, and the options past them. -/
def paragraphArguments (callee : String) (widthRequired : Bool) (args : List Value)
    (kwargs : List (String × Value)) : Act (Value × Value × List (String × Value)) := do
  let own := kwargs.filter fun (k, _) => k = "text" ∨ k = "width"
  let rest := kwargs.filter fun (k, _) => k ≠ "text" ∧ k ≠ "width"
  let bound ← reading fun _ => bindParameters callee
    [required "text", if widthRequired then required "width" else optional "width"] args own
  match bound with
  | [some text, width] => pure (text, width.getD (.int 70), rest)
  | _ => pure (.none, .int 70, rest)

/-- `wrap` (the lines as a list) or `fill` (one text). -/
def wrapCall (asList : Bool) (args : List Value) (kwargs : List (String × Value)) : Act Value := do
  let callee := if asList then "wrap()" else "fill()"
  let (text, width, options) ← paragraphArguments callee false args kwargs
  let (style, chars) ← styleFor "TextWrapper.__init__()" width options text
  let lines ← wrapped width (style.wrap chars)
  if asList then newList (lines.map fun l => .str (String.ofList l))
  else pure (.str (String.ofList (['\n'].intercalate lines)))

/-- `shorten`: the text's words joined by single spaces and cut to one line. -/
def shortenCall (args : List Value) (kwargs : List (String × Value)) : Act Value := do
  let (text, width, options) ← paragraphArguments "shorten()" true args kwargs
  if options.any (·.1 = "max_lines") then
    throw ⟨"TypeError",
      "textwrap.TextWrapper() got multiple values for keyword argument 'max_lines'"⟩
  let _ ← reading fun _ => bindParameters "TextWrapper.__init__()" styleParameters []
    (("width", width) :: ("max_lines", .int 1) :: options)
  let h ← get
  let words ← match text with
    | .str s => pure (blankSeparated s.toList)
    | _ =>
      match bytesOf? h text with
      | some bs =>
        if bs.all fun b => b = 32 ∨ (9 ≤ b ∧ b ≤ 13) then pure []
        else throw ⟨"TypeError", "sequence item 0: expected str instance, bytes found"⟩
      | none =>
        throw ⟨"AttributeError", quote (text.typeName h) ++ " object has no attribute 'strip'"⟩
  let joined := String.ofList ([' '].intercalate words)
  let (style, chars) ← styleFor "TextWrapper.__init__()" width
    (options ++ [("max_lines", .int 1)]) (.str joined)
  pure (.str (String.ofList (← wrapped width (style.fill chars))))

/-- The characters of a text that a function reads with a pattern. -/
def patternSubject (h : Heap) (v : Value) : Except Raised (List Char) :=
  match v with
  | .str s => pure s.toList
  | _ =>
    match bytesOf? h v with
    | some _ => throw ⟨"TypeError", "cannot use a string pattern on a bytes-like object"⟩
    | none =>
      throw ⟨"TypeError", "expected string or bytes-like object, got " ++ quote (v.typeName h)⟩

/-- `dedent`. -/
def dedentCall (args : List Value) (kwargs : List (String × Value)) : Act Value := do
  let bound ← reading fun _ => bindParameters "dedent()" [required "text"] args kwargs
  match bound with
  | [some text] => do
    let chars ← reading fun h => patternSubject h text
    pure (.str (String.ofList (dedentText chars)))
  | _ => pure .none

/-- `indent`: the prefix before each line the predicate picks, by default each that is not
blank; the predicate is called on the lines in order. -/
def indentCall (call : Value → List Value → Act Value) (args : List Value)
    (kwargs : List (String × Value)) : Act Value := do
  let bound ← reading fun _ => bindParameters "indent()"
    [required "text", required "prefix", optional "predicate"] args kwargs
  match bound with
  | [some text, some pre, predicate] => do
    let h ← get
    let chars ← match text with
      | .str s => pure s.toList
      | _ => throw ⟨"AttributeError",
          quote (text.typeName h) ++ " object has no attribute 'splitlines'"⟩
    let mut out : List Char := []
    for line in linesWithBreaks chars do
      let picked ← match predicate with
        | none | some .none => pure !(isBlankText line)
        | some f => do (← call f [.str (String.ofList line)]).truthy
      if picked then
        match pre with
        | .str p => out := out ++ p.toList ++ line
        | _ => throw ⟨"TypeError", "unsupported operand type(s) for +: " ++
            quote (pre.typeName h) ++ " and 'str'"⟩
      else out := out ++ line
    pure (.str (String.ofList out))
  | _ => pure .none

/-- A function of the text-wrapping module applied, or `none` for another function. -/
def paragraphFunction (call : Value → List Value → Act Value) (m name : String)
    (args : List Value) (kwargs : List (String × Value)) : Option (Act Value) :=
  if m ≠ "textwrap" then none
  else match name with
    | "wrap" => some (wrapCall true args kwargs)
    | "fill" => some (wrapCall false args kwargs)
    | "shorten" => some (shortenCall args kwargs)
    | "dedent" => some (dedentCall args kwargs)
    | "indent" => some (indentCall call args kwargs)
    | _ => none

end ItemRecommender.Object
