/-!
# Base64

Base64 writes each three bytes as four digits of six bits each, taken from the sixty-four of
`base64Alphabet`; a last group of one or two bytes becomes two or three digits, padded with `=`
to four (`base64Encode`).

Reading (`base64Decode`) runs a small machine over the text (`Base64Reader`): each digit adds
six bits, and a byte is complete at every digit but the first of a group.

* The lenient reading skips every byte that is no digit, and stops at the pad that completes a
  group of at least two digits, whatever follows.
* The strict reading refuses a text that starts with a pad, a byte that is neither digit nor
  pad, a digit after a pad, and anything after the padding that ends the text.

Either way the end of the text must close its last group: a group of one digit has too few
bits for a byte (`oneDigitOver`, counting the digits read), and a group of two or three without
its padding is refused as incorrectly padded.
-/

namespace ItemRecommender.Binary

/-- The byte of a character below 256. -/
def byteOf (c : Char) : UInt8 := c.toNat.toUInt8

/-- The bytes of an ASCII text. -/
def asciiBytes (s : String) : List UInt8 := s.toList.map byteOf

/-- The pad byte, `=`. -/
def padByte : UInt8 := 61

/-- The sixty-four digits, in the order of their values. -/
def base64Alphabet : List Char :=
  "ABCDEFGHIJKLMNOPQRSTUVWXYZabcdefghijklmnopqrstuvwxyz0123456789+/".toList

/-- The digit of a value below 64. -/
def base64Digit (v : Nat) : UInt8 := byteOf (base64Alphabet.getD v 'A')

/-- The four digits of a group of three bytes read as one number `n`, the last `pads` of them
replaced by pads. -/
def base64Group (n pads : Nat) : List UInt8 :=
  let digits := [base64Digit (n / 262144), base64Digit (n / 4096 % 64),
    base64Digit (n / 64 % 64), base64Digit (n % 64)]
  digits.take (4 - pads) ++ List.replicate pads padByte

/-- The Base64 text of bytes. -/
def base64Encode : List UInt8 → List UInt8
  | a :: b :: c :: rest =>
    base64Group (a.toNat * 65536 + b.toNat * 256 + c.toNat) 0 ++ base64Encode rest
  | [a, b] => base64Group (a.toNat * 65536 + b.toNat * 256) 1
  | [a] => base64Group (a.toNat * 65536) 2
  | [] => []

/-- The value of a Base64 digit. -/
def base64Value? (b : UInt8) : Option Nat :=
  let c := b.toNat
  if 65 ≤ c ∧ c ≤ 90 then some (c - 65)
  else if 97 ≤ c ∧ c ≤ 122 then some (c - 71)
  else if 48 ≤ c ∧ c ≤ 57 then some (c + 4)
  else if c = 43 then some 62
  else if c = 47 then some 63
  else none

/-- Why a Base64 text cannot be read. -/
inductive Base64Fault where
  | incorrectPadding
  | oneDigitOver (count : Nat)
  | notBase64
  | discontinuousPadding
  | excessData
  | leadingPadding
  deriving DecidableEq, Repr

/-- The words of a Base64 fault. -/
def Base64Fault.message : Base64Fault → String
  | .incorrectPadding => "Incorrect padding"
  | .oneDigitOver n => "Invalid base64-encoded string: number of data characters (" ++
      toString n ++ ") cannot be 1 more than a multiple of 4"
  | .notBase64 => "Only base64 data is allowed"
  | .discontinuousPadding => "Discontinuous padding not allowed"
  | .excessData => "Excess data after padding"
  | .leadingPadding => "Leading padding not allowed"

/-- The state of reading Base64: the bytes so far, how many digits of the current group are
read, the bits of the group not yet in a byte, the pads since the last digit of a group of two
or more, and whether any pad has been read. -/
structure Base64Reader where
  bytes : Array UInt8 := #[]
  place : Nat := 0
  carry : Nat := 0
  pads : Nat := 0
  padded : Bool := false

/-- The reader after one more digit. -/
def Base64Reader.digit (r : Base64Reader) (v : Nat) : Base64Reader :=
  match r.place with
  | 0 => { r with place := 1, carry := v, pads := 0 }
  | 1 =>
    let byte := (r.carry * 4 + v / 16).toUInt8
    { r with place := 2, bytes := r.bytes.push byte, carry := v % 16, pads := 0 }
  | 2 =>
    let byte := (r.carry * 16 + v / 4).toUInt8
    { r with place := 3, bytes := r.bytes.push byte, carry := v % 4, pads := 0 }
  | _ =>
    let byte := (r.carry * 64 + v).toUInt8
    { r with place := 0, bytes := r.bytes.push byte, carry := 0, pads := 0 }

/-- The bytes of a text read to its end: its last group must be whole. -/
def Base64Reader.finish (r : Base64Reader) : Except Base64Fault (List UInt8) :=
  match r.place with
  | 0 => pure r.bytes.toList
  | 1 => throw (.oneDigitOver (r.bytes.size / 3 * 4 + 1))
  | _ => throw .incorrectPadding

/-- Reads the rest of a text. -/
def base64Read (strict : Bool) (r : Base64Reader) : List UInt8 → Except Base64Fault (List UInt8)
  | [] => r.finish
  | b :: rest =>
    if b = padByte then
      let r := { r with padded := true }
      if 2 ≤ r.place ∧ 4 ≤ r.place + r.pads + 1 then
        if strict && !rest.isEmpty then throw .excessData else pure r.bytes.toList
      else base64Read strict (if 2 ≤ r.place then { r with pads := r.pads + 1 } else r) rest
    else
      match base64Value? b with
      | none => if strict then throw .notBase64 else base64Read strict r rest
      | some v =>
        if strict && r.padded then throw .discontinuousPadding
        else base64Read strict (r.digit v) rest

/-- The bytes of a Base64 text, read leniently or strictly. -/
def base64Decode (strict : Bool) (text : List UInt8) : Except Base64Fault (List UInt8) :=
  if strict && text.head? == some padByte then throw .leadingPadding
  else base64Read strict {} text

/-- The Base64 text of bytes in lines of at most 76 digits, each line ended by a newline: each
line holds 57 bytes. -/
def base64Lines (bytes : List UInt8) : List UInt8 :=
  if bytes.isEmpty then []
  else base64Encode (bytes.take 57) ++ [10] ++ base64Lines (bytes.drop 57)
termination_by bytes.length
decreasing_by
  simp only [List.length_drop]
  have : bytes.length ≠ 0 := by simp_all
  omega

end ItemRecommender.Binary
