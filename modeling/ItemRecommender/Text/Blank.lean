/-! # Blank characters

    The blank characters are the 29 code points that the preference and recommendation formats
    treat as white space around a field: the ASCII controls tab to carriage return, the four
    information separators `\x1c` to `\x1f`, the space, next line `\x85`, the no-break space,
    and the Unicode space separators and line and paragraph separators. A field is compared
    and converted only after these are removed from both of its ends. -/

namespace ItemRecommender.Text

/-- The ranges of blank code points, in increasing order. -/
def blankRanges : List (Nat × Nat) :=
  [(0x9, 0xD), (0x1C, 0x20), (0x85, 0x85), (0xA0, 0xA0), (0x1680, 0x1680), (0x2000, 0x200A),
    (0x2028, 0x2029), (0x202F, 0x202F), (0x205F, 0x205F), (0x3000, 0x3000)]

/-- Whether a character is blank. -/
def isBlank (c : Char) : Bool :=
  blankRanges.any fun r => r.1 ≤ c.toNat ∧ c.toNat ≤ r.2

/-- Removes the blank characters at both ends of a text. -/
def trimBlank (s : List Char) : List Char :=
  ((s.dropWhile isBlank).reverse.dropWhile isBlank).reverse

/-- A text is blank when nothing is left after trimming. -/
def isBlankText (s : List Char) : Bool := s.all isBlank

end ItemRecommender.Text
