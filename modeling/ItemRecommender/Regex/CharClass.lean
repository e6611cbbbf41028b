import ItemRecommender.Regex.Syntax
import ItemRecommender.Text.Letters
import ItemRecommender.Text.Casing
import ItemRecommender.Text.Capitals
import ItemRecommender.Text.Digit
import ItemRecommender.Text.Blank
import ItemRecommender.Text.CodePoint
/-! # Regular expressions: which characters a node accepts

    Characters are code points. What a digit, a blank and a word character are depends on the
    alphabet the flags choose: Unicode's (decimal digits, white space, letters and numbers of
    every script), or ASCII's.

    Ignoring case, a character is compared by its small letter: its simple lowercase mapping.
    Some small letters have partners that no case mapping reaches but that match them all the
    same (the dotless `ı` and `i`, the long `ſ` and `s`, the symbol forms of Greek letters);
    `caseExtras` lists them, and the relation it gives is symmetric. A set accepts a character
    when one of its members, brought to small letters, is the character's small letter or one
    of its partners. Members beyond the basic plane are compared as they are, and a range that
    reaches beyond it also accepts a character whose small letter's capital lies in it. A set
    with no letter in it is compared without folding. -/

namespace ItemRecommender.Regex

open ItemRecommender.Text

/-- The alphabet that decides what letters, digits and blanks are. -/
inductive Alphabet where
  | unicode | ascii
  deriving DecidableEq, Repr

/-- The alphabet of some flags: Unicode's under the Unicode flag, unless the locale's is asked
for; the locale's and ASCII's agree. -/
def Alphabet.ofFlags (flags : Nat) : Alphabet :=
  if hasFlag flags unicodeFlag && !hasFlag flags localeFlag then .unicode else .ascii

/-- Whether a code point is an ASCII digit. -/
def isAsciiDigit (n : Nat) : Bool := 48 ≤ n && n ≤ 57

/-- Whether a code point is an ASCII letter. -/
def isAsciiLetter (n : Nat) : Bool := (65 ≤ n && n ≤ 90) || (97 ≤ n && n ≤ 122)

/-- Whether a code point is an ASCII blank: space, tab, newline, return, form feed or
vertical tab. -/
def isAsciiSpace (n : Nat) : Bool := n = 32 || (9 ≤ n && n ≤ 13)

/-- Whether a code point is a digit of the alphabet. -/
def Alphabet.isDigit : Alphabet → Nat → Bool
  | .unicode, n => isDecimal (ofCodePoint n)
  | .ascii, n => isAsciiDigit n

/-- Whether a code point is a blank of the alphabet. -/
def Alphabet.isSpace : Alphabet → Nat → Bool
  | .unicode, n => isBlank (ofCodePoint n)
  | .ascii, n => isAsciiSpace n

/-- Whether a code point is a word character of the alphabet: a letter, a digit or `_`. -/
def Alphabet.isWord : Alphabet → Nat → Bool
  | .unicode, n => isWordChar (ofCodePoint n)
  | .ascii, n => isAsciiLetter n || isAsciiDigit n || n = 95

/-- Whether a code point belongs to a category. -/
def Category.holds (a : Alphabet) : Category → Nat → Bool
  | .digit, n => a.isDigit n
  | .notDigit, n => !a.isDigit n
  | .space, n => a.isSpace n
  | .notSpace, n => !a.isSpace n
  | .word, n => a.isWord n
  | .notWord, n => !a.isWord n

/-- The simple small letter of a code point: the first character of its lowercase. -/
def lowerCode (n : Nat) : Nat :=
  match smallOf (ofCodePoint n) with
  | c :: _ => codePoint c
  | [] => n

/-- The simple capital of a code point: the first character of its uppercase. -/
def upperCode (n : Nat) : Nat :=
  match capitalsOf (ofCodePoint n) with
  | c :: _ => codePoint c
  | [] => n

/-- The small letter of a code point in the alphabet. -/
def Alphabet.lower : Alphabet → Nat → Nat
  | .unicode, n => lowerCode n
  | .ascii, n => if 65 ≤ n && n ≤ 90 then n + 32 else n

/-- Whether a code point has another case in the alphabet. -/
def Alphabet.isCased : Alphabet → Nat → Bool
  | .unicode, n => lowerCode n != n || upperCode n != n
  | .ascii, n => isAsciiLetter n

/-- The small letters that match another small letter though no case mapping joins them. -/
def caseExtras : List (Nat × List Nat) := [
  (0x69, [0x131]), (0x73, [0x17F]), (0xB5, [0x3BC]), (0x131, [0x69]),
  (0x17F, [0x73]), (0x345, [0x3B9, 0x1FBE]), (0x390, [0x1FD3]), (0x3B0, [0x1FE3]),
  (0x3B2, [0x3D0]), (0x3B5, [0x3F5]), (0x3B8, [0x3D1]), (0x3B9, [0x345, 0x1FBE]),
  (0x3BA, [0x3F0]), (0x3BC, [0xB5]), (0x3C0, [0x3D6]), (0x3C1, [0x3F1]),
  (0x3C2, [0x3C3]), (0x3C3, [0x3C2]), (0x3C6, [0x3D5]), (0x3D0, [0x3B2]),
  (0x3D1, [0x3B8]), (0x3D5, [0x3C6]), (0x3D6, [0x3C0]), (0x3F0, [0x3BA]),
  (0x3F1, [0x3C1]), (0x3F5, [0x3B5]), (0x432, [0x1C80]), (0x434, [0x1C81]),
  (0x43E, [0x1C82]), (0x441, [0x1C83]), (0x442, [0x1C84, 0x1C85]), (0x44A, [0x1C86]),
  (0x463, [0x1C87]), (0x1C80, [0x432]), (0x1C81, [0x434]), (0x1C82, [0x43E]),
  (0x1C83, [0x441]), (0x1C84, [0x442, 0x1C85]), (0x1C85, [0x442, 0x1C84]), (0x1C86, [0x44A]),
  (0x1C87, [0x463]), (0x1C88, [0xA64B]), (0x1E61, [0x1E9B]), (0x1E9B, [0x1E61]),
  (0x1FBE, [0x345, 0x3B9]), (0x1FD3, [0x390]), (0x1FE3, [0x3B0]), (0xA64B, [0x1C88]),
  (0xFB05, [0xFB06]), (0xFB06, [0xFB05])]

/-- The partners of a small letter in the alphabet. -/
def Alphabet.extras : Alphabet → Nat → List Nat
  | .unicode, n => (caseExtras.lookup n).getD []
  | .ascii, _ => []

/-- The last code point of the basic plane. -/
def basicPlaneEnd : Nat := 0xFFFF

/-- Whether a run of the case tables holds some code point from `lo` to `hi`. -/
def runMeets (r : CaseRun) (lo hi : Nat) : Bool :=
  let a := Nat.max lo r.first
  let b := Nat.min hi r.last
  a ≤ b && a + (r.stride - (a - r.first) % r.stride) % r.stride ≤ b

/-- Whether some code point from `lo` to `hi` has another case in the alphabet. -/
def Alphabet.rangeHasCased : Alphabet → Nat → Nat → Bool
  | .unicode, lo, hi =>
    lowerRuns.any (runMeets · lo hi) || upperRuns.any (runMeets · lo hi) ||
      lowerSpecial.any (fun e => lo ≤ e.1 && e.1 ≤ hi) ||
      upperSpecial.any (fun e => lo ≤ e.1 && e.1 ≤ hi)
  | .ascii, lo, hi => (lo ≤ 90 && 65 ≤ hi) || (lo ≤ 122 && 97 ≤ hi)

/-- Whether some code point from `lo` to `hi` has `x` as its small letter in the alphabet. -/
def Alphabet.lowersTo : Alphabet → Nat → Nat → Nat → Bool
  | .ascii, lo, hi, x =>
    (lo ≤ x && x ≤ hi && !(65 ≤ x && x ≤ 90)) ||
      (97 ≤ x && x ≤ 122 && lo ≤ x - 32 && x - 32 ≤ hi)
  | .unicode, lo, hi, x =>
    (lo ≤ x && x ≤ hi && lowerCode x == x) ||
      lowerRuns.any (fun r =>
        let i := (x : Int) - r.shift
        0 ≤ i && i.toNat != 0x130 && r.holds i.toNat && lo ≤ i.toNat && i.toNat ≤ hi) ||
      (x == 0x69 && lo ≤ 0x130 && 0x130 ≤ hi)

/-- Whether a member of a set holds a code point, compared as it is. -/
def SetItem.holds (a : Alphabet) (n : Nat) : SetItem → Bool
  | .char c => n == c
  | .range lo hi => lo ≤ n && n ≤ hi
  | .category k => k.holds a n

/-- Whether a member of a set, brought to small letters, holds the small letter `l`. -/
def SetItem.holdsFolded (a : Alphabet) (l : Nat) : SetItem → Bool
  | .char c =>
    if basicPlaneEnd < c then l == c
    else
      let lc := a.lower c
      lc == l || (a.extras lc).contains l
  | .range lo hi =>
    (lo ≤ basicPlaneEnd && (l :: a.extras l).any (a.lowersTo lo (Nat.min hi basicPlaneEnd))) ||
      (basicPlaneEnd < hi && ((lo ≤ l && l ≤ hi) || (lo ≤ upperCode l && upperCode l ≤ hi)))
  | .category k => k.holds a l

/-- Whether a member of a set has a letter in it, so that the set is compared by small
letters; a member beyond the basic plane counts as one. -/
def SetItem.hasCased (a : Alphabet) : SetItem → Bool
  | .char c => basicPlaneEnd < c || a.isCased c
  | .range lo hi => basicPlaneEnd < hi || a.rangeHasCased lo hi
  | .category _ => false

/-- Whether a code point matches the literal `c` under the flags. -/
def literalMatches (flags c n : Nat) : Bool :=
  if !hasFlag flags ignoreCaseFlag then n == c
  else if hasFlag flags localeFlag then
    n == c || Alphabet.ascii.lower n == c || upperOfAscii n == c
  else
    let a := Alphabet.ofFlags flags
    if !a.isCased c then n == c
    else
      let lc := a.lower c
      let l := a.lower n
      l == lc || (a.extras lc).contains l
where
  /-- The capital of an ASCII small letter; any other code point is kept. -/
  upperOfAscii (n : Nat) : Nat := if 97 ≤ n && n ≤ 122 then n - 32 else n

/-- Whether a code point is in a set under the flags, before any negation. -/
def setHolds (flags : Nat) (items : List SetItem) (n : Nat) : Bool :=
  let a := Alphabet.ofFlags flags
  if !hasFlag flags ignoreCaseFlag then items.any (·.holds a n)
  else if hasFlag flags localeFlag then
    let lo := Alphabet.ascii.lower n
    let up := literalMatches.upperOfAscii n
    items.any (·.holds a lo) || (up != lo && items.any (·.holds a up))
  else if items.any (·.hasCased a) then items.any (·.holdsFolded a (a.lower n))
  else items.any (·.holds a n)

/-- Whether two code points are equal under the flags, as a reference to a group compares
them: by small letters when ignoring case. -/
def sameUnderFlags (flags m n : Nat) : Bool :=
  if hasFlag flags ignoreCaseFlag then
    let a := if hasFlag flags localeFlag then Alphabet.ascii else Alphabet.ofFlags flags
    a.lower m == a.lower n
  else m == n

end ItemRecommender.Regex
