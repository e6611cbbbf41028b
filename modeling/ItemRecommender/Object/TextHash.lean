/-! # The hash of texts and byte strings

    Texts and byte strings hash by SipHash-1-3 under the all-zero key: the message is cut into
    little-endian 64-bit words, each mixed into a four-word state by one round, and the last
    partial word carries the message's length in its top byte; three more rounds finish the
    state, whose four words are folded together by exclusive or.

    A byte string is hashed as its bytes. A text is hashed as its code points, each written in
    the narrowest of one, two or four little-endian bytes that holds the largest of them. The
    empty message hashes to zero, and a hash of `-1`, which the language keeps for errors,
    becomes `-2`. -/

namespace ItemRecommender.Object

/-- The four words of the mixing state. -/
structure SipState where
  v0 : UInt64
  v1 : UInt64
  v2 : UInt64
  v3 : UInt64

/-- A word rotated left by `b` bits, `0 < b < 64`. -/
def rotateWord (x b : UInt64) : UInt64 := (x <<< b) ||| (x >>> (64 - b))

namespace SipState

/-- The state of the all-zero key. -/
def initial : SipState :=
  ⟨0x736f6d6570736575, 0x646f72616e646f6d, 0x6c7967656e657261, 0x7465646279746573⟩

/-- One round: two half rounds of additions, rotations and exclusive ors. -/
def round (s : SipState) : SipState :=
  let v0 := s.v0 + s.v1
  let v2 := s.v2 + s.v3
  let v1 := rotateWord s.v1 13 ^^^ v0
  let v3 := rotateWord s.v3 16 ^^^ v2
  let v0 := rotateWord v0 32
  let v2 := v2 + v1
  let v0 := v0 + v3
  let v1 := rotateWord v1 17 ^^^ v2
  let v3 := rotateWord v3 21 ^^^ v0
  let v2 := rotateWord v2 32
  ⟨v0, v1, v2, v3⟩

/-- Mixes one message word into the state. -/
def absorb (s : SipState) (m : UInt64) : SipState :=
  let s := round { s with v3 := s.v3 ^^^ m }
  { s with v0 := s.v0 ^^^ m }

/-- Mixes every whole word of a message into the state: the state, and the bytes that do not
fill a word. -/
def absorbAll (s : SipState) : List UInt8 → SipState × List UInt8
  | b0 :: b1 :: b2 :: b3 :: b4 :: b5 :: b6 :: b7 :: rest =>
    absorbAll (s.absorb (littleEndianWord [b0, b1, b2, b3, b4, b5, b6, b7])) rest
  | rest => (s, rest)
where
  /-- The word of at most eight bytes, the first the least significant. -/
  littleEndianWord (bs : List UInt8) : UInt64 :=
    bs.foldr (fun b acc => (acc <<< 8) ||| b.toUInt64) 0

end SipState

/-- SipHash-1-3 of a message under the all-zero key. -/
def sipHash (bytes : List UInt8) : UInt64 :=
  let (s, tail) := SipState.initial.absorbAll bytes
  let last := (bytes.length.toUInt64 <<< 56) ||| SipState.absorbAll.littleEndianWord tail
  let s := s.absorb last
  let s := { s with v2 := s.v2 ^^^ 0xff }
  let s := s.round.round.round
  s.v0 ^^^ s.v1 ^^^ s.v2 ^^^ s.v3

/-- The hash of a message as a signed word: zero for the empty one, and never `-1`. -/
def messageHash (bytes : List UInt8) : Int :=
  if bytes.isEmpty then 0
  else
    let w := sipHash bytes
    if w = 0xFFFFFFFFFFFFFFFF then -2
    else if w.toNat < Nat.pow 2 63 then w.toNat else (w.toNat : Int) - Int.ofNat (Nat.pow 2 64)

/-- The little-endian bytes of a number, `width` of them. -/
def littleEndianBytes (width n : Nat) : List UInt8 :=
  (List.range width).map fun i => (n / Nat.pow 256 i % 256).toUInt8

/-- The code points of a text as the bytes they are hashed as: each in as many bytes as the
largest needs, one, two or four. -/
def textUnits (codes : List Nat) : List UInt8 :=
  let top := codes.foldl max 0
  let width := if top < 0x100 then 1 else if top < 0x10000 then 2 else 4
  codes.flatMap (littleEndianBytes width)

/-- The hash of a text of code points. -/
def textHash (codes : List Nat) : Int := messageHash (textUnits codes)

end ItemRecommender.Object
