import ItemRecommender.Binary.Base32
/-!
# Uuencoding

A line of uuencoded data holds at most 45 bytes: a first character for their count, then four
characters for each three bytes (the last group padded with zero bytes), each character a
value of six bits plus 32, and a newline (`uuEncode`). With backticks a zero is written as a
backtick rather than a space.

Reading a line (`uuDecode`) takes the count from its first character, only its low six bits;
an empty line counts as if its first character were a zero byte. It then reads as many
characters as the count of bytes needs, six bits each: a line end, or the end of the text,
reads as zero bits, and a character outside the space to the backtick is refused. What is left
of the line may hold only spaces, backticks and line ends.
-/

namespace ItemRecommender.Binary

/-- The character of six bits: the value plus 32, or a backtick for zero when asked. -/
def uuDigit (backtick : Bool) (v : Nat) : UInt8 :=
  if backtick && v == 0 then 96 else (32 + v).toUInt8

/-- The uuencoded line of at most 45 bytes. -/
def uuEncode (backtick : Bool) (bytes : List UInt8) : List UInt8 :=
  let groups := (byteGroups 3 bytes).flatMap fun g =>
    let n := groupNumber g 3
    [n / 262144, n / 4096 % 64, n / 64 % 64, n % 64].map (uuDigit backtick)
  uuDigit backtick bytes.length :: groups ++ [10]

/-- Why a uuencoded line cannot be read. -/
inductive UuFault where
  | illegalCharacter
  | trailingGarbage
  | tooLong
  deriving DecidableEq, Repr

/-- The words of a fault of uuencoding. -/
def UuFault.message : UuFault → String
  | .illegalCharacter => "Illegal char"
  | .trailingGarbage => "Trailing garbage"
  | .tooLong => "At most 45 bytes at once"

/-- The six bits a character of a line stands for; a line end stands for zero. -/
def uuValue (c : UInt8) : Except UuFault Nat :=
  if c == 10 || c == 13 then pure 0
  else if c < 32 || 96 < c then throw .illegalCharacter
  else pure ((c.toNat - 32) % 64)

/-- The bytes of a uuencoded line. -/
def uuDecode (text : List UInt8) : Except UuFault (List UInt8) := do
  let (count, body) := match text with
    | [] => (32, [])
    | c :: rest => ((c.toNat + 32) % 64, rest)
  let needed := (4 * count + 2) / 3
  let values ← (body.take needed).mapM uuValue
  let values := values ++ List.replicate (needed - values.length) 0
  let bits := values.foldl (fun n v => n * 64 + v) 0 / Nat.pow 2 (6 * needed - 8 * count)
  let bytes := (List.range count).map fun i =>
    (bits / Nat.pow 256 (count - 1 - i) % 256).toUInt8
  if (body.drop needed).any fun c => !(c == 32 || c == 96 || c == 10 || c == 13) then
    throw .trailingGarbage
  pure bytes

end ItemRecommender.Binary
