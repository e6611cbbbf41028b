import ItemRecommender.Text.CharacterNames
import ItemRecommender.Text.CharacterProperties
import ItemRecommender.Text.Decomposition
/-!
# Normalization forms

Unicode gives a text four normal forms (Unicode Standard Annex 15). The decomposed forms
replace every character by its full decomposition, canonical only (NFD) or compatibility as well
(NFKD), and then put each run of combining marks in the canonical order: sorted by combining
class, marks of one class keeping their order. The composed forms (NFC and NFKC) then compose:
a mark that no character between it and the last starter blocks (a starter, or a mark of its
class or a higher one) is merged into the starter when the two have a composite.

A Hangul syllable decomposes by rule into a leading consonant, a vowel and perhaps a trailing
consonant, and composes back the same way. Decompositions nest at most three deep, so a depth
of eight (`decompositionDepth`) unfolds every one.
-/

namespace ItemRecommender.Text

/-- The four normal forms. -/
inductive NormalForm where
  | nfc | nfd | nfkc | nfkd
  deriving DecidableEq, Repr

/-- The normal form a name stands for. -/
def NormalForm.ofName? : String → Option NormalForm
  | "NFC" => some .nfc
  | "NFD" => some .nfd
  | "NFKC" => some .nfkc
  | "NFKD" => some .nfkd
  | _ => none

/-- Whether a form uses the compatibility decompositions too. -/
def NormalForm.compatible : NormalForm → Bool
  | .nfkc | .nfkd => true
  | .nfc | .nfd => false

/-- Whether a form composes after decomposing. -/
def NormalForm.composed : NormalForm → Bool
  | .nfc | .nfkc => true
  | .nfd | .nfkd => false

/-- The first leading consonant of the Hangul jamo. -/
def leadBase : Nat := 0x1100

/-- The first vowel of the Hangul jamo. -/
def vowelBase : Nat := 0x1161

/-- The code point before the first trailing consonant of the Hangul jamo. -/
def trailBase : Nat := 0x11A7

/-- How deep decompositions are unfolded: deeper than any nests. -/
def decompositionDepth : Nat := 8

/-- The jamo of the Hangul syllable at an offset from `hangulBase`. -/
def syllableJamo (s : Nat) : List Nat :=
  [leadBase + s / 588, vowelBase + s % 588 / 28] ++
    (if s % 28 = 0 then [] else [trailBase + s % 28])

/-- The full decomposition of a code point, unfolded `depth` levels: canonical only, or the
compatibility decompositions too. -/
def decomposeWith (compatible : Bool) : Nat → Nat → List Nat
  | 0, n => [n]
  | depth + 1, n =>
    if hangulBase ≤ n ∧ n < hangulBase + hangulCount then syllableJamo (n - hangulBase)
    else
      match readDecomposition (decompositionOf n) with
      | (_, []) => [n]
      | (canonical, parts) =>
        if canonical || compatible then parts.flatMap (decomposeWith compatible depth) else [n]

/-- A run of combining marks in canonical order: sorted by class, stably. -/
def sortMarks (marks : List Nat) : List Nat :=
  marks.mergeSort fun a b => combiningClass a ≤ combiningClass b

/-- A text in canonical order; `marks` holds, last first, the marks since the last starter. -/
def canonicalOrder (marks : List Nat) : List Nat → List Nat
  | [] => sortMarks marks.reverse
  | c :: cs =>
    if combiningClass c = 0 then sortMarks marks.reverse ++ c :: canonicalOrder [] cs
    else canonicalOrder (c :: marks) cs

/-- The composite of two characters: a Hangul leading consonant and vowel, a syllable without a
trailing consonant and one, or a pair with a listed composite. -/
def composePair? (a b : Nat) : Option Nat :=
  if leadBase ≤ a ∧ a < leadBase + 19 ∧ vowelBase ≤ b ∧ b < vowelBase + 21 then
    some (hangulBase + ((a - leadBase) * 21 + (b - vowelBase)) * 28)
  else if hangulBase ≤ a ∧ a < hangulBase + hangulCount ∧ (a - hangulBase) % 28 = 0 ∧
      trailBase < b ∧ b < trailBase + 28 then
    some (a + (b - trailBase))
  else compositeList.lookup (a, b)

/-- The state of composing: the characters so far, the position of the last starter, and the
class of the last mark after it (`none` when the starter is the last character). -/
structure Composing where
  done : Array Nat
  starter : Option Nat
  lastClass : Option Nat

/-- Composes one more character: merged into the last starter when nothing blocks it and the two
have a composite, else added, a starter becoming the last starter. -/
def Composing.step (st : Composing) (c : Nat) : Composing :=
  let cc := combiningClass c
  let blocked : Bool := match st.lastClass with
    | some k => k == 0 || decide (cc ≤ k)
    | none => false
  let merged : Option Composing := do
    let i ← st.starter
    if blocked then none
    let s ← st.done[i]?
    let p ← composePair? s c
    some { st with done := st.done.setIfInBounds i p }
  match merged with
  | some next => next
  | none =>
    if cc = 0 then ⟨st.done.push c, some st.done.size, none⟩
    else ⟨st.done.push c, st.starter, some cc⟩

/-- The composition of a text in canonical order. -/
def compose (cs : List Nat) : List Nat :=
  (cs.foldl Composing.step ⟨#[], none, none⟩).done.toList

/-- A text of code points in a normal form. -/
def normalize (form : NormalForm) (cs : List Nat) : List Nat :=
  let decomposed := canonicalOrder [] (cs.flatMap (decomposeWith form.compatible decompositionDepth))
  if form.composed then compose decomposed else decomposed

end ItemRecommender.Text
