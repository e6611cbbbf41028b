import ItemRecommender.Text.Quoted
/-! # Strict UTF-8 decoding

    Files are decoded as UTF-8 (RFC 3629) with no repair. The decoder reads one character at a
    time. A lead byte fixes how many continuation bytes follow and the range of the first of
    them (`leadShape`); the others lie in `0x80`-`0xBF`. Decoding stops at the first fault:

    * a byte that cannot start a character is an invalid start byte, one byte long;
    * a byte outside the range its place allows is an invalid continuation byte; the fault spans
      the bytes of the character before it;
    * input that ends inside a character is unexpected end of data, spanning the bytes left.

    The fault is reported with its first position and its length in bytes. A decoder that lets
    surrogates pass reads the three bytes of an encoded surrogate, where a character may start,
    as the character that holds it; other faults stay as they are. -/

namespace ItemRecommender.Text

/-- Why decoding stopped. -/
inductive Utf8Fault where
  | invalidStart
  | invalidContinuation
  | unexpectedEnd
  deriving DecidableEq, Repr

/-- The first fault of a byte sequence: where it starts, how many bytes it spans, and the byte
at its start. -/
structure Utf8Error where
  position : Nat
  length : Nat
  firstByte : UInt8
  fault : Utf8Fault
  deriving DecidableEq, Repr

/-- The number of continuation bytes after a lead byte and the range of the first of them, or
`none` when the byte cannot start a character. -/
def leadShape (b : Nat) : Option (Nat × Nat × Nat) :=
  if b ≤ 0x7F then some (0, 0x80, 0xBF)
  else if 0xC2 ≤ b ∧ b ≤ 0xDF then some (1, 0x80, 0xBF)
  else if b = 0xE0 then some (2, 0xA0, 0xBF)
  else if 0xE1 ≤ b ∧ b ≤ 0xEC then some (2, 0x80, 0xBF)
  else if b = 0xED then some (2, 0x80, 0x9F)
  else if 0xEE ≤ b ∧ b ≤ 0xEF then some (2, 0x80, 0xBF)
  else if b = 0xF0 then some (3, 0x90, 0xBF)
  else if 0xF1 ≤ b ∧ b ≤ 0xF3 then some (3, 0x80, 0xBF)
  else if b = 0xF4 then some (3, 0x80, 0x8F)
  else none

/-- The bits a lead byte carries into its code point. -/
def leadBits (b : Nat) : Nat :=
  if b ≤ 0x7F then b else if b ≤ 0xDF then b % 0x20 else if b ≤ 0xEF then b % 0x10 else b % 0x08

/-- A character being read: where it started, its lead byte, the bytes read so far, the
continuation bytes still owed, the range of the next one, and the bits gathered. -/
structure Partial where
  start : Nat
  lead : UInt8
  read : Nat
  owed : Nat
  low : Nat
  high : Nat
  bits : Nat

/-- Whether three bytes encode a surrogate: `0xED`, then `0xA0`-`0xBF`, then a continuation
byte. -/
def encodesSurrogate (a b c : UInt8) : Bool :=
  a = 0xED && 0xA0 ≤ b && b ≤ 0xBF && 0x80 ≤ c && c ≤ 0xBF

/-- What a byte where a character may start begins: a fault, a whole character, or a
character whose continuation bytes follow. -/
inductive LeadStep where
  | fault (e : Utf8Error)
  | whole (c : Char)
  | opened (p : Partial)

/-- The step of a byte at position `pos` where a character may start. -/
def leadStep (pos : Nat) (b : UInt8) : LeadStep :=
  match leadShape b.toNat with
  | none => .fault ⟨pos, 1, b, .invalidStart⟩
  | some (0, _, _) => .whole (Char.ofNat b.toNat)
  | some (n, low, high) => .opened ⟨pos, b, 1, n, low, high, leadBits b.toNat⟩

/-- Decodes `bytes`, which start at position `pos`, after the characters `done` (reversed) and
with the character `open?` unfinished. When `passing`, an encoded surrogate where a character
may start is read as the character that holds it. -/
def decodeFrom (passing : Bool) (pos : Nat) (done : List Char) : Option Partial → List UInt8 →
    Except Utf8Error (List Char)
  | none, [] => .ok done.reverse
  | some p, [] => .error ⟨p.start, p.read, p.lead, .unexpectedEnd⟩
  | none, b :: c :: d :: more =>
    if passing && encodesSurrogate b c d then
      let code := (b.toNat % 0x10) * 0x1000 + (c.toNat % 64) * 64 + d.toNat % 64
      decodeFrom passing (pos + 3) (ofCodePoint code :: done) none more
    else
      match leadStep pos b with
      | .fault e => .error e
      | .whole ch => decodeFrom passing (pos + 1) (ch :: done) none (c :: d :: more)
      | .opened p => decodeFrom passing (pos + 1) done (some p) (c :: d :: more)
  | none, b :: rest =>
    match leadStep pos b with
    | .fault e => .error e
    | .whole ch => decodeFrom passing (pos + 1) (ch :: done) none rest
    | .opened p => decodeFrom passing (pos + 1) done (some p) rest
  | some p, b :: rest =>
    if p.low ≤ b.toNat ∧ b.toNat ≤ p.high then
      let bits := p.bits * 64 + b.toNat % 64
      if p.owed = 1 then decodeFrom passing (pos + 1) (Char.ofNat bits :: done) none rest
      else decodeFrom passing (pos + 1) done
        (some { p with read := p.read + 1, owed := p.owed - 1, low := 0x80, high := 0xBF,
                       bits := bits }) rest
    else .error ⟨p.start, p.read, p.lead, .invalidContinuation⟩

/-- The characters a byte sequence encodes, or its first fault. -/
def decodeUtf8 (bytes : List UInt8) : Except Utf8Error (List Char) :=
  decodeFrom false 0 [] none bytes

/-- The characters a byte sequence encodes, where an encoded surrogate is allowed, or its first
fault. -/
def decodeUtf8Passing (bytes : List UInt8) : Except Utf8Error (List Char) :=
  decodeFrom true 0 [] none bytes

/-- The words a fault is reported with. -/
def Utf8Fault.reason : Utf8Fault → String
  | .invalidStart => "invalid start byte"
  | .invalidContinuation => "invalid continuation byte"
  | .unexpectedEnd => "unexpected end of data"

/-- The report of a fault: the byte when it spans one, else the span of positions. -/
def Utf8Error.message (e : Utf8Error) : String :=
  if e.length = 1 then
    s!"'utf-8' codec can't decode byte 0x{String.ofList (hexDigits 2 e.firstByte.toNat)} in position {e.position}: {e.fault.reason}"
  else
    s!"'utf-8' codec can't decode bytes in position {e.position}-{e.position + e.length - 1}: {e.fault.reason}"

/-- Decodes with at most `fuel` refusals, each refused run of bytes read as U+FFFD. -/
def decodeReplacingWith : Nat → List UInt8 → List Char
  | 0, _ => []
  | fuel + 1, bytes =>
    match decodeUtf8 bytes with
    | .ok cs => cs
    | .error e =>
      ((decodeUtf8 (bytes.take e.position)).toOption.getD []) ++
        '\uFFFD' :: decodeReplacingWith fuel (bytes.drop (e.position + max e.length 1))

/-- The characters a byte sequence encodes, each refused run of bytes read as U+FFFD. Every
refusal drops at least one byte, so one per byte is enough. -/
def decodeReplacing (bytes : List UInt8) : List Char :=
  decodeReplacingWith (bytes.length + 1) bytes

end ItemRecommender.Text
