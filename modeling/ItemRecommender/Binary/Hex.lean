import ItemRecommender.Binary.Base64
/-!
# Hexadecimal

Each byte is written as two hexadecimal digits, lowercase (`hexEncode`) or in Base16 uppercase.
A separator may stand between groups of bytes: groups counted from the end when the group size
is positive, from the start when it is negative, and no separator at all for size zero
(`hexGrouped`).

Reading (`hexDecode`) takes two digits of either case per byte: a text of odd length is refused
before its digits are looked at. Base16 (`base16Decode`) takes uppercase digits only, after
folding the case when asked, and looks at every digit before the length.
-/

namespace ItemRecommender.Binary

/-- The digit of a value below 16, lowercase or uppercase. -/
def hexDigit (upper : Bool) (v : Nat) : UInt8 :=
  if v < 10 then (48 + v).toUInt8 else ((if upper then 55 else 87) + v).toUInt8

/-- The two digits of a byte. -/
def hexPair (upper : Bool) (b : UInt8) : List UInt8 :=
  [hexDigit upper (b.toNat / 16), hexDigit upper (b.toNat % 16)]

/-- The hexadecimal text of bytes. -/
def hexEncode (upper : Bool) (bytes : List UInt8) : List UInt8 := bytes.flatMap (hexPair upper)

/-- Bytes cut into groups of `size`, from the start; the last group may be shorter. -/
def byteGroups (size : Nat) (bytes : List UInt8) : List (List UInt8) :=
  if size = 0 then [bytes]
  else if bytes.isEmpty then []
  else bytes.take size :: byteGroups size (bytes.drop size)
termination_by bytes.length
decreasing_by
  simp only [List.length_drop]
  have : bytes.length ≠ 0 := by simp_all
  omega

/-- The lowercase hexadecimal text of bytes with a separator between groups of `|size|` bytes:
counted from the end for a positive size, from the start for a negative one. -/
def hexGrouped (bytes : List UInt8) (sep : UInt8) (size : Int) : List UInt8 :=
  if size = 0 then hexEncode false bytes
  else
    let groups :=
      if 0 < size then ((byteGroups size.toNat bytes.reverse).map List.reverse).reverse
      else byteGroups size.natAbs bytes
    [sep].intercalate (groups.map (hexEncode false))

/-- The value of a hexadecimal digit of either case. -/
def hexValue? (b : UInt8) : Option Nat :=
  let c := b.toNat
  if 48 ≤ c ∧ c ≤ 57 then some (c - 48)
  else if 65 ≤ c ∧ c ≤ 70 then some (c - 55)
  else if 97 ≤ c ∧ c ≤ 102 then some (c - 87)
  else none

/-- Why a hexadecimal text cannot be read. -/
inductive HexFault where
  | oddLength
  | notHex
  | notBase16
  deriving DecidableEq, Repr

/-- The words of a hexadecimal fault. -/
def HexFault.message : HexFault → String
  | .oddLength => "Odd-length string"
  | .notHex => "Non-hexadecimal digit found"
  | .notBase16 => "Non-base16 digit found"

/-- The bytes of pairs of hexadecimal digits. -/
def hexPairs : List UInt8 → Except HexFault (List UInt8)
  | a :: b :: rest =>
    match hexValue? a, hexValue? b with
    | some x, some y => do pure ((x * 16 + y).toUInt8 :: (← hexPairs rest))
    | _, _ => throw .notHex
  | _ => pure []

/-- The bytes of a hexadecimal text of either case. -/
def hexDecode (text : List UInt8) : Except HexFault (List UInt8) :=
  if text.length % 2 = 1 then throw .oddLength else hexPairs text

/-- The uppercase of an ASCII byte. -/
def asciiUpper (b : UInt8) : UInt8 := if 97 ≤ b ∧ b ≤ 122 then b - 32 else b

/-- The bytes of a Base16 text: uppercase digits, or digits of either case when `casefold`. -/
def base16Decode (casefold : Bool) (text : List UInt8) : Except HexFault (List UInt8) :=
  let text := if casefold then text.map asciiUpper else text
  if text.any fun b => !(48 ≤ b ∧ b ≤ 57 ∨ 65 ≤ b ∧ b ≤ 70) then throw .notBase16
  else hexDecode text

end ItemRecommender.Binary
