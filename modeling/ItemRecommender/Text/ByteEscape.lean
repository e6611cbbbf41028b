import ItemRecommender.Text.Utf8
/-! # Bytes kept through text

    File names are bytes, and text in the library; bytes that are not UTF-8 are kept in text as
    surrogates, so that every byte string reads as text and writes back as itself. Decoding
    reads UTF-8 and turns each byte of a refused run (all at `0x80` or above) into the
    surrogate `0xDC00` plus the byte. Encoding writes UTF-8 and turns each such surrogate back
    into its byte; any other surrogate cannot be written, and the refusal spans it and the
    surrogates that follow it. -/

namespace ItemRecommender.Text

/-- Decodes with at most `fuel` refused runs, each byte of a refused run read as the surrogate
that keeps it. -/
def decodeEscapingWith : Nat → List UInt8 → List Char
  | 0, _ => []
  | fuel + 1, bytes =>
    match decodeUtf8 bytes with
    | .ok cs => cs
    | .error e =>
      let run := (bytes.drop e.position).take (max e.length 1)
      ((decodeUtf8 (bytes.take e.position)).toOption.getD []) ++
        run.map (fun b => ofCodePoint (0xDC00 + b.toNat)) ++
        decodeEscapingWith fuel (bytes.drop (e.position + max e.length 1))

/-- The text of a byte string, its bytes that are not UTF-8 kept as surrogates. -/
def decodeEscaping (bytes : List UInt8) : List Char :=
  decodeEscapingWith (bytes.length + 1) bytes

/-- Whether a character keeps a byte: a surrogate from `0xDC80` to `0xDCFF`. -/
def keepsByte (c : Char) : Bool := 0xDC80 ≤ codePoint c && codePoint c ≤ 0xDCFF

/-- The bytes of a text, its surrogates that keep bytes written as those bytes; or the first
and last position of the run of surrogates that cannot be written. -/
def encodeEscaping (cs : List Char) : Except (Nat × Nat) (List UInt8) :=
  let rec go : Nat → List Char → Except (Nat × Nat) (List UInt8)
    | _, [] => .ok []
    | i, c :: rest =>
      if isStandIn c then
        if keepsByte c then
          (go (i + 1) rest).map ((codePoint c - 0xDC00).toUInt8 :: ·)
        else
          let run := (rest.takeWhile isStandIn).length
          .error (i, i + run)
      else (go (i + 1) rest).map ((String.singleton c).toUTF8.toList ++ ·)
  go 0 cs

end ItemRecommender.Text
