import ItemRecommender.Text.CodePoint
import ItemRecommender.Text.Quoted
/-!
# UTF-16 and UTF-32

Text written in units of two or four bytes, in either byte order, read with surrogates let
through (`decodeUtf16From`, `decodeUtf32From`).

A UTF-16 unit that is a high surrogate joins a low one right after it into one character of a
higher plane; any other surrogate unit reads as the surrogate itself. A UTF-32 unit is the code
point itself, surrogates included, and must be below `0x110000`. Bytes left over at the end,
too few for a unit, are refused as truncated data.
-/

namespace ItemRecommender.Text

/-- Why units cannot be read: the bytes refused, from their position, and the reason. -/
structure WideFault where
  position : Nat
  bytes : List UInt8
  reason : String
  deriving DecidableEq, Repr

/-- The report of a fault of a codec: the byte when it spans one, else the span of
positions. -/
def WideFault.message (codec : String) (e : WideFault) : String :=
  let what := match e.bytes with
    | [b] => "byte 0x" ++ String.ofList (hexDigits 2 b.toNat) ++ " in position " ++
      toString e.position
    | bs => "bytes in position " ++ toString e.position ++ "-" ++
      toString (e.position + bs.length - 1)
  "'" ++ codec ++ "' codec can't decode " ++ what ++ ": " ++ e.reason

/-- The number bytes stand for, most significant first when `bigEndian`. -/
def unitValue (bigEndian : Bool) (bytes : List UInt8) : Nat :=
  (if bigEndian then bytes else bytes.reverse).foldl (fun n b => n * 256 + b.toNat) 0

/-- The characters of UTF-16 units whose first byte is at `pos`. -/
def decodeUtf16From (bigEndian : Bool) (pos : Nat) : List UInt8 → Except WideFault (List Char)
  | [] => pure []
  | [b] => throw ⟨pos, [b], "truncated data"⟩
  | a :: b :: rest =>
    let u := unitValue bigEndian [a, b]
    let alone := fun (_ : Unit) =>
      (ofCodePoint u :: ·) <$> decodeUtf16From bigEndian (pos + 2) rest
    if 0xD800 ≤ u ∧ u < 0xDC00 then
      match rest with
      | c :: d :: more =>
        let w := unitValue bigEndian [c, d]
        if 0xDC00 ≤ w ∧ w < 0xE000 then
          (Char.ofNat (0x10000 + (u - 0xD800) * 0x400 + (w - 0xDC00)) :: ·) <$>
            decodeUtf16From bigEndian (pos + 4) more
        else alone ()
      | _ => alone ()
    else alone ()

/-- The characters of UTF-32 units whose first byte is at `pos`. -/
def decodeUtf32From (bigEndian : Bool) (pos : Nat) : List UInt8 → Except WideFault (List Char)
  | [] => pure []
  | a :: b :: c :: d :: rest =>
    let u := unitValue bigEndian [a, b, c, d]
    if 0x110000 ≤ u then throw ⟨pos, [a, b, c, d], "code point not in range(0x110000)"⟩
    else (ofCodePoint u :: ·) <$> decodeUtf32From bigEndian (pos + 4) rest
  | tail => throw ⟨pos, tail, "truncated data"⟩

end ItemRecommender.Text
