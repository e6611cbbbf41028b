import ItemRecommender.Binary.Hex
/-!
# Percent-encoding

A byte of a URL that may not stand for itself is written as `%` and its two uppercase
hexadecimal digits (`percentEncode`). The unreserved bytes (ASCII letters, digits and `_.-~`)
always stand for themselves, and so do the bytes the caller calls safe; a form value writes
its spaces as `+` once they are safe.

Reading (`percentDecode`) turns each `%` followed by two hexadecimal digits of either case
back into its byte and keeps any other `%` as it is. A text is read by the runs of its ASCII
characters (`asciiRuns`): each run is read into bytes and decoded, and the characters between
the runs stay. A query is cut at its separators from the left (`splitOnSeq`).
-/

namespace ItemRecommender.Url

open ItemRecommender.Binary

/-- Whether a byte is an ASCII letter or digit, or one of `_.-~`. -/
def isUnreserved (b : UInt8) : Bool :=
  (48 ≤ b && b ≤ 57) || (65 ≤ b && b ≤ 90) || (97 ≤ b && b ≤ 122) ||
    b == 95 || b == 46 || b == 45 || b == 126

/-- The percent-encoded form of one byte, given the bytes that are safe besides the unreserved
ones. -/
def escapeByte (safe : List UInt8) (b : UInt8) : List UInt8 :=
  if isUnreserved b || safe.contains b then [b] else 37 :: hexPair true b

/-- The percent-encoded form of bytes. -/
def percentEncode (safe : List UInt8) (bytes : List UInt8) : List UInt8 :=
  bytes.flatMap (escapeByte safe)

/-- Percent-encoded bytes read back: each escape becomes its byte. -/
def percentDecode : List UInt8 → List UInt8
  | [] => []
  | 37 :: a :: b :: rest =>
    match hexValue? a, hexValue? b with
    | some x, some y => (x * 16 + y).toUInt8 :: percentDecode rest
    | _, _ => 37 :: percentDecode (a :: b :: rest)
  | c :: rest => c :: percentDecode rest

/-- A text cut into its maximal runs of characters alike under a test, each with the test's
answer. -/
def runsBy (p : Char → Bool) : List Char → List (Bool × List Char)
  | [] => []
  | c :: rest =>
    match runsBy p rest with
    | (q, run) :: more => if p c == q then (q, c :: run) :: more else (p c, [c]) :: (q, run) :: more
    | [] => [(p c, [c])]

/-- The runs of a text inside ASCII (marked `true`) and outside it. -/
def asciiRuns (cs : List Char) : List (Bool × List Char) := runsBy (·.toNat < 128) cs

/-- A text read back from percent-encoding: the escapes of each run of ASCII characters are read
into bytes and decoded by `decode`, and the characters outside ASCII stay. -/
def percentDecodeText {m : Type → Type} [Monad m] (decode : List UInt8 → m (List Char))
    (cs : List Char) : m (List Char) := do
  let parts ← (asciiRuns cs).mapM fun (inside, run) =>
    if inside then decode (percentDecode (run.map fun c => c.toNat.toUInt8)) else pure run
  pure parts.flatten

/-- A list cut at each occurrence of a non-empty separator, found from the left; the pieces
keep everything but the separators. -/
def splitOnSeq {α : Type} [BEq α] (sep : List α) (xs : List α) : List (List α) :=
  match xs with
  | [] => [[]]
  | x :: rest =>
    if !sep.isEmpty && sep.isPrefixOf (x :: rest) then
      [] :: splitOnSeq sep ((x :: rest).drop sep.length)
    else
      match splitOnSeq sep rest with
      | first :: more => (x :: first) :: more
      | [] => [[x]]
termination_by xs.length
decreasing_by
  all_goals simp only [List.length_drop, List.length_cons]
  · have : sep.length ≠ 0 := by simp_all
    omega
  · omega

end ItemRecommender.Url
