import ItemRecommender.Text.Printable
import ItemRecommender.Text.CodePoint
/-! # Quoted text

    Error messages show offending text quoted, so that blanks, tabs and invisible characters can
    be seen. The quote is a single quote, unless the text holds a single quote and no double
    quote. Inside, a backslash and the chosen quote are preceded by a backslash; tab, line feed
    and carriage return are written `\t`, `\n`, `\r`; any other ASCII control and the delete
    character are written `\xHH`; a character outside ASCII that is not printable is written
    `\xHH`, `\uHHHH` or `\UHHHHHHHH`, the shortest of them that holds its code point, with
    lower-case hexadecimal digits (a surrogate is always `\uHHHH`); everything else stands for itself. -/

namespace ItemRecommender.Text

/-- The lower-case hexadecimal digits of `n`, padded with zeros to `width` digits. -/
def hexDigits (width n : Nat) : List Char :=
  (List.range width).reverse.map fun i => Nat.digitChar (n / Nat.pow 16 i % 16)

/-- The quote that encloses a text. -/
def quoteFor (s : List Char) : Char :=
  if s.contains '\'' && !s.contains '"' then '"' else '\''

/-- How one character is written inside quotes `q`. -/
def escapeChar (q c : Char) : List Char :=
  if c = q ∨ c = '\\' then ['\\', c]
  else if c = '\t' then ['\\', 't']
  else if c = '\n' then ['\\', 'n']
  else if c = '\r' then ['\\', 'r']
  else if c.toNat < 0x20 ∨ c.toNat = 0x7F then '\\' :: 'x' :: hexDigits 2 c.toNat
  else if c.toNat < 0x7F then [c]
  else if isStandIn c then '\\' :: 'u' :: hexDigits 4 (codePoint c)
  else if isPrintableWide c then [c]
  else if c.toNat ≤ 0xFF then '\\' :: 'x' :: hexDigits 2 c.toNat
  else if c.toNat ≤ 0xFFFF then '\\' :: 'u' :: hexDigits 4 c.toNat
  else '\\' :: 'U' :: hexDigits 8 c.toNat

/-- A text between quotes, escaped as described above. -/
def quoteChars (s : List Char) : List Char :=
  let q := quoteFor s
  q :: s.flatMap (escapeChar q) ++ [q]

/-- A string between quotes, escaped as described above. -/
def quote (s : String) : String := String.ofList (quoteChars s.toList)

end ItemRecommender.Text
