/-! # Code points of text

    The language's text is a sequence of code points from `0` to `0x10FFFF`, and that includes
    the surrogates `0xD800`-`0xDFFF`, which are not characters. A text here is a `String`, whose
    characters exclude them, so each surrogate is held by a stand-in character: the surrogate
    `0xD800 + k` by `0x10F800 + k`, the last 2048 code points of plane 16. `codePoint` reads a
    character back as the code point it holds, and `ofCodePoint` makes the character that holds
    a code point; every text function that looks at code points (quoting, hashing, encoding,
    `ord`) goes through them.

    A character outside the stand-in range holds itself. -/

namespace ItemRecommender.Text

/-- The first stand-in character's code point. -/
def standInBase : Nat := 0x10F800

/-- The first surrogate. -/
def surrogateBase : Nat := 0xD800

/-- Whether a code point is a surrogate. -/
def isSurrogateCode (n : Nat) : Bool := surrogateBase ≤ n && n < surrogateBase + 0x800

/-- Whether a character holds a surrogate. -/
def isStandIn (c : Char) : Bool := standInBase ≤ c.toNat

/-- The code point a character holds. -/
def codePoint (c : Char) : Nat :=
  if isStandIn c then surrogateBase + (c.toNat - standInBase) else c.toNat

/-- The character that holds a code point below `0x110000`. -/
def ofCodePoint (n : Nat) : Char :=
  if isSurrogateCode n then Char.ofNat (standInBase + (n - surrogateBase)) else Char.ofNat n

/-- The code points of a text. -/
def codePoints (s : String) : List Nat := s.toList.map codePoint

end ItemRecommender.Text
