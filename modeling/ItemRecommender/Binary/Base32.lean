import ItemRecommender.Binary.Hex
/-!
# Base32

Base32 writes each five bytes as eight digits of five bits each, from an alphabet of
thirty-two: the standard one (`base32Alphabet`) or the extended hexadecimal one
(`base32HexAlphabet`). A last group of one to four bytes becomes two, four, five or seven
digits, padded with `=` to eight (`base32Encode`).

Reading (`base32Decode`) wants a text whose length is a multiple of eight. The standard
alphabet may map the digit `0` to `O` and `1` to a letter the caller names, and either may fold
lowercase to uppercase. The pads at the end are counted, the digits before them read eight at a
time (a byte that is no digit is refused here), and then the count of pads must be one a group
can end with: 0, 1, 3, 4 or 6. The last group keeps the bytes its digits fill.
-/

namespace ItemRecommender.Binary

/-- The digits of standard Base32, in the order of their values. -/
def base32Alphabet : List Char := "ABCDEFGHIJKLMNOPQRSTUVWXYZ234567".toList

/-- The digits of Base32 with the extended hexadecimal alphabet. -/
def base32HexAlphabet : List Char := "0123456789ABCDEFGHIJKLMNOPQRSTUV".toList

/-- The eight digits of a group of five bytes read as one number `n`, of which the first `kept`
stay and the rest become pads. -/
def base32Group (alphabet : List Char) (n kept : Nat) : List UInt8 :=
  let digits := (List.range 8).map fun i =>
    byteOf (alphabet.getD (n / Nat.pow 32 (7 - i) % 32) 'A')
  digits.take kept ++ List.replicate (8 - kept) padByte

/-- The number the bytes of a group make, padded with zero bytes to five. -/
def groupNumber (bytes : List UInt8) (size : Nat) : Nat :=
  (bytes ++ List.replicate (size - bytes.length) 0).foldl
    (fun (n : Nat) (b : UInt8) => n * 256 + b.toNat) 0

/-- How many digits of a last group of one to five bytes carry bits. -/
def base32Kept (count : Nat) : Nat :=
  match count with
  | 1 => 2
  | 2 => 4
  | 3 => 5
  | 4 => 7
  | _ => 8

/-- The Base32 text of bytes. -/
def base32Encode (alphabet : List Char) (bytes : List UInt8) : List UInt8 :=
  (byteGroups 5 bytes).flatMap fun g =>
    base32Group alphabet (groupNumber g 5) (base32Kept g.length)

/-- Why a Base32 text cannot be read. -/
inductive Base32Fault where
  | incorrectPadding
  | notBase32
  deriving DecidableEq, Repr

/-- The words of a Base32 fault. -/
def Base32Fault.message : Base32Fault → String
  | .incorrectPadding => "Incorrect padding"
  | .notBase32 => "Non-base32 digit found"

/-- The value of a digit of an alphabet. -/
def digitValue? (alphabet : List Char) (b : UInt8) : Option Nat :=
  alphabet.findIdx? (byteOf · == b)

/-- The number a group of digits makes, five bits each. -/
def base32Number (alphabet : List Char) (group : List UInt8) : Except Base32Fault Nat :=
  group.foldlM (fun n b =>
    match digitValue? alphabet b with
    | some v => pure (n * 32 + v)
    | none => throw .notBase32) 0

/-- The five bytes, most significant first, of a number below `2 ^ 40`. -/
def fiveBytes (n : Nat) : List UInt8 :=
  (List.range 5).map fun i => (n / Nat.pow 256 (4 - i) % 256).toUInt8

/-- The bytes of a Base32 text; `one` is the letter the digit `1` stands for, when it may
stand for one, and `casefold` lets lowercase digits count. -/
def base32Decode (alphabet : List Char) (casefold : Bool) (one : Option UInt8)
    (text : List UInt8) : Except Base32Fault (List UInt8) := do
  if text.length % 8 ≠ 0 then throw .incorrectPadding
  let text := match one with
    | some letter => text.map fun b => if b = 48 then 79 else if b = 49 then letter else b
    | none => text
  let text := if casefold then text.map asciiUpper else text
  let digits := (text.reverse.dropWhile (· = padByte)).reverse
  let pads := text.length - digits.length
  let numbers ← (byteGroups 8 digits).mapM (base32Number alphabet)
  if !([0, 1, 3, 4, 6].contains pads) then throw .incorrectPadding
  let decoded := numbers.flatMap fiveBytes
  match numbers.getLast? with
  | some last =>
    if pads = 0 then pure decoded
    else
      let kept := (43 - 5 * pads) / 8
      pure (decoded.take (decoded.length - 5) ++
        (fiveBytes (last * Nat.pow 32 pads)).take kept)
  | none => pure decoded

end ItemRecommender.Binary
