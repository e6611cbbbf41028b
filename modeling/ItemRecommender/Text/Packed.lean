/-!
# Packed tables

The largest tables of the library are stored packed. Their bytes are compressed with DEFLATE
(RFC 1951, a raw stream without header), padded with zero bytes to a multiple of four, and
written with the 88 printable ASCII characters that a string holds without escapes
(`packedDigits`): each four bytes, read as one number most significant first, are five digits of
base 88, most significant first (`packedBytes`).

Inflating (`inflate`) reads the stream block by block, the bits of each byte from the least
significant on. A stored block is copied; a block with the fixed codes or with codes of its own
is read symbol by symbol, a literal adding a byte and a length with a distance copying earlier
output. The codes are canonical Huffman codes, given by the length of the code of each symbol
and read one bit at a time (`Huffman.decode`). Every symbol takes at least one bit, so the bits
of the stream bound the blocks and the symbols; a stream cut short yields what was read before.
-/

namespace ItemRecommender.Text

/-- The digits of packed text, in the order of their values: printable ASCII but the quotes, the
backslash, the grave accent and the braces. -/
def packedDigits : List Char :=
  "!#$%&()*+,-./0123456789:;<=>?@ABCDEFGHIJKLMNOPQRSTUVWXYZ[]^_abcdefghijklmnopqrstuvwxyz|~".toList

/-- The bytes of packed digits, each five digits giving four bytes; a last group of fewer than
five digits is ignored. -/
def packedGroups : List Nat → ByteArray → ByteArray
  | d0 :: d1 :: d2 :: d3 :: d4 :: rest, out =>
    let n := (((d0 * 88 + d1) * 88 + d2) * 88 + d3) * 88 + d4
    packedGroups rest
      ((((out.push (n / Nat.pow 2 24).toUInt8).push (n / Nat.pow 2 16).toUInt8).push
        (n / Nat.pow 2 8).toUInt8).push n.toUInt8)
  | _, out => out

/-- The bytes that a packed text spells. -/
def packedBytes (text : String) : ByteArray :=
  packedGroups (text.toList.map packedDigits.idxOf) .empty

/-- A stream of bits: the bytes and the position of the next bit. -/
structure BitStream where
  bytes : ByteArray
  pos : Nat

/-- The next bit, taken from the least significant end of its byte; zero past the end. -/
def BitStream.bit (s : BitStream) : Nat × BitStream :=
  ((((s.bytes[s.pos / 8]?).getD 0).toNat.testBit (s.pos % 8)).toNat, { s with pos := s.pos + 1 })

/-- The next `n` bits as a number, the first read the least significant. -/
def BitStream.bits (s : BitStream) : Nat → Nat × BitStream
  | 0 => (0, s)
  | n + 1 =>
    let (b, s) := s.bit
    let (v, s) := s.bits n
    (b + 2 * v, s)

/-- A canonical Huffman code: the count of codes of each length up to 15, and the symbols in the
order of their codes. -/
structure Huffman where
  counts : Array Nat
  symbols : Array Nat

/-- The canonical code that gives each symbol a code of the length at its position; a symbol of
length zero has no code. The codes of each length are given in the order of the symbols. -/
def Huffman.ofLengths (lengths : Array Nat) : Huffman where
  counts := (Array.range 16).map fun len => (lengths.filter (· == len)).size
  symbols := ((List.range' 1 15).flatMap fun len =>
    (List.range lengths.size).filter fun sym => lengths[sym]? == some len).toArray

/-- Reads a symbol. The code is read one bit at a time, most significant first; the codes of
each length are consecutive numbers, and those of the next length start at twice the number
after the last of this one. `first` is the first code of length `len` and `index` the position
of its symbol. -/
def Huffman.decodeFrom (h : Huffman) : Nat → Nat → Nat → Nat → Nat → BitStream →
    Option (Nat × BitStream)
  | 0, _, _, _, _, _ => none
  | fuel + 1, len, code, first, index, s =>
    let (b, s) := s.bit
    let code := code + b
    let count := h.counts.getD len 0
    if code < first + count then (h.symbols[index + (code - first)]?).map (·, s)
    else h.decodeFrom fuel (len + 1) (2 * code) (2 * (first + count)) (index + count) s

/-- Reads a symbol with a code of at most 15 bits. -/
def Huffman.decode (h : Huffman) (s : BitStream) : Option (Nat × BitStream) :=
  h.decodeFrom 15 1 0 0 0 s

/-- The least length of each length symbol from 257 on, with its count of extra bits. -/
def lengthBases : Array (Nat × Nat) :=
  #[(3, 0), (4, 0), (5, 0), (6, 0), (7, 0), (8, 0), (9, 0), (10, 0), (11, 1), (13, 1), (15, 1),
    (17, 1), (19, 2), (23, 2), (27, 2), (31, 2), (35, 3), (43, 3), (51, 3), (59, 3), (67, 4),
    (83, 4), (99, 4), (115, 4), (131, 5), (163, 5), (195, 5), (227, 5), (258, 0)]

/-- The least distance of each distance symbol, with its count of extra bits. -/
def distanceBases : Array (Nat × Nat) :=
  #[(1, 0), (2, 0), (3, 0), (4, 0), (5, 1), (7, 1), (9, 2), (13, 2), (17, 3), (25, 3), (33, 4),
    (49, 4), (65, 5), (97, 5), (129, 6), (193, 6), (257, 7), (385, 7), (513, 8), (769, 8),
    (1025, 9), (1537, 9), (2049, 10), (3073, 10), (4097, 11), (6145, 11), (8193, 12),
    (12289, 12), (16385, 13), (24577, 13)]

/-- The output with `n` more bytes, each copied from `dist` bytes before it. -/
def copyBack (dist : Nat) : Nat → ByteArray → ByteArray
  | 0, out => out
  | n + 1, out => copyBack dist n (out.push ((out[out.size - dist]?).getD 0))

/-- Reads the symbols of a block up to its end symbol 256, at most `fuel` of them. -/
def inflateSymbols (lit dist : Huffman) : Nat → BitStream → ByteArray →
    Option (BitStream × ByteArray)
  | 0, _, _ => none
  | fuel + 1, s, out => do
    let (sym, s) ← lit.decode s
    if sym < 256 then inflateSymbols lit dist fuel s (out.push sym.toUInt8)
    else if sym = 256 then pure (s, out)
    else
      let (base, extra) ← lengthBases[sym - 257]?
      let (more, s) := s.bits extra
      let (dsym, s) ← dist.decode s
      let (dbase, dextra) ← distanceBases[dsym]?
      let (dmore, s) := s.bits dextra
      inflateSymbols lit dist fuel s (copyBack (dbase + dmore) (base + more) out)

/-- The code of the literals and lengths of a block with the fixed codes. -/
def fixedLiterals : Huffman :=
  .ofLengths (.replicate 144 8 ++ .replicate 112 9 ++ .replicate 24 7 ++ .replicate 8 8)

/-- The code of the distances of a block with the fixed codes. -/
def fixedDistances : Huffman := .ofLengths (.replicate 30 5)

/-- The order in which a block with codes of its own gives the lengths of the code-length code. -/
def codeLengthOrder : List Nat := [16, 17, 18, 0, 8, 7, 9, 6, 10, 5, 11, 4, 12, 3, 13, 2, 14, 1, 15]

/-- The next `n` numbers of `width` bits each. -/
def BitStream.fields (s : BitStream) (width : Nat) : Nat → List Nat × BitStream
  | 0 => ([], s)
  | n + 1 =>
    let (v, s) := s.bits width
    let (vs, s) := s.fields width n
    (v :: vs, s)

/-- Reads code lengths with the code-length code until there are `n`: a symbol below 16 is a
length, 16 repeats the last length 3 to 6 times, 17 gives 3 to 10 zeros and 18 gives 11 to 138. -/
def readLengths (h : Huffman) (n : Nat) : Nat → BitStream → Array Nat →
    Option (BitStream × Array Nat)
  | 0, _, _ => none
  | fuel + 1, s, acc =>
    if n ≤ acc.size then pure (s, acc)
    else do
      let (sym, s) ← h.decode s
      if sym < 16 then readLengths h n fuel s (acc.push sym)
      else if sym = 16 then
        let (r, s) := s.bits 2
        readLengths h n fuel s (acc ++ .replicate (r + 3) (acc.back?.getD 0))
      else if sym = 17 then
        let (r, s) := s.bits 3
        readLengths h n fuel s (acc ++ .replicate (r + 3) 0)
      else
        let (r, s) := s.bits 7
        readLengths h n fuel s (acc ++ .replicate (r + 11) 0)

/-- Reads the codes of a block with codes of its own: the counts of literal and length codes, of
distance codes and of code-length codes, the code-length code, then the lengths of both codes. -/
def dynamicCodes (fuel : Nat) (s : BitStream) : Option (Huffman × Huffman × BitStream) := do
  let (nlit, s) := s.bits 5
  let (ndist, s) := s.bits 5
  let (ncode, s) := s.bits 4
  let (codeLengths, s) := s.fields 3 (ncode + 4)
  let lengthCode := Huffman.ofLengths <| (codeLengthOrder.zip codeLengths).foldl
    (fun acc (sym, len) => acc.set! sym len) (.replicate 19 0)
  let (s, lengths) ← readLengths lengthCode (nlit + 257 + ndist + 1) fuel s #[]
  pure (.ofLengths (lengths.extract 0 (nlit + 257)),
    .ofLengths (lengths.extract (nlit + 257) (nlit + 257 + ndist + 1)), s)

/-- Copies a stored block: from the next byte boundary, its length in two bytes, the
complement of the length in two more, and the bytes. -/
def storedBlock (s : BitStream) (out : ByteArray) : BitStream × ByteArray :=
  let start := (s.pos + 7) / 8
  let len := ((s.bytes[start]?).getD 0).toNat + 256 * ((s.bytes[start + 1]?).getD 0).toNat
  (⟨s.bytes, 8 * (start + 4 + len)⟩, out ++ s.bytes.extract (start + 4) (start + 4 + len))

/-- Reads the blocks of a stream up to the last, at most `fuel` of them, each with at most `fuel`
symbols. -/
def inflateBlocks : Nat → BitStream → ByteArray → ByteArray
  | 0, _, out => out
  | fuel + 1, s, out =>
    let (last, s) := s.bits 1
    let (kind, s) := s.bits 2
    let block : Option (BitStream × ByteArray) :=
      if kind = 0 then pure (storedBlock s out)
      else if kind = 1 then inflateSymbols fixedLiterals fixedDistances fuel s out
      else if kind = 2 then do
        let (lit, dist, s) ← dynamicCodes fuel s
        inflateSymbols lit dist fuel s out
      else none
    match block with
    | some (s, out) => if last = 1 then out else inflateBlocks fuel s out
    | none => out

/-- The bytes that a DEFLATE stream holds. -/
def inflate (bytes : ByteArray) : ByteArray :=
  inflateBlocks (8 * bytes.size + 1) ⟨bytes, 0⟩ .empty

/-- The bytes of a packed table. -/
def unpack (text : String) : ByteArray := inflate (packedBytes text)

/-- The text of a packed table, its bytes read as UTF-8. -/
def unpackText (text : String) : String := (String.fromUTF8? (unpack text)).getD ""

end ItemRecommender.Text
