/-!
# Checksums

Three checksums of bytes, each continuing from a value given for the bytes before:

* CRC-32 (`crc32`): the remainder of the bytes, bits least significant first, by the
  polynomial `0xEDB88320`, with the register complemented before and after;
* Adler-32 (`adler32`): two sums modulo 65521, of the bytes plus one and of those sums, the
  second in the high half of the word;
* CRC-CCITT (`crcHqx`): the remainder of sixteen bits by the polynomial `0x1021`, bits most
  significant first, with no complement.

Each steps through one bit at a time (`crc32Bit`, `crcHqxBit`), eight to a byte.
-/

namespace ItemRecommender.Binary

/-- One bit of CRC-32: the register moved down, the polynomial added when a one fell out. -/
def crc32Bit (c : UInt32) : UInt32 :=
  if c &&& 1 == 1 then (c >>> 1) ^^^ 0xEDB88320 else c >>> 1

/-- CRC-32 after one more byte. -/
def crc32Byte (c : UInt32) (b : UInt8) : UInt32 :=
  (List.range 8).foldl (fun c _ => crc32Bit c) (c ^^^ b.toUInt32)

/-- The CRC-32 of bytes, continuing from `start`. -/
def crc32 (start : UInt32) (bytes : List UInt8) : UInt32 :=
  ~~~(bytes.foldl crc32Byte (~~~start))

/-- The modulus of the sums of Adler-32, the largest prime below `2 ^ 16`. -/
def adlerBase : Nat := 65521

/-- The Adler-32 of bytes, continuing from `start`. -/
def adler32 (start : UInt32) (bytes : List UInt8) : UInt32 :=
  let (a, b) := bytes.foldl (fun (a, b) x =>
    let a := (a + x.toNat) % adlerBase
    (a, (b + a) % adlerBase)) (start.toNat % 65536, start.toNat / 65536)
  (b % adlerBase * 65536 + a % adlerBase).toUInt32

/-- One bit of CRC-CCITT: the register moved up, the polynomial added when a one fell out. -/
def crcHqxBit (c : UInt16) : UInt16 :=
  if c &&& 0x8000 != 0 then (c <<< 1) ^^^ 0x1021 else c <<< 1

/-- CRC-CCITT after one more byte. -/
def crcHqxByte (c : UInt16) (b : UInt8) : UInt16 :=
  (List.range 8).foldl (fun c _ => crcHqxBit c) (c ^^^ (b.toUInt16 <<< 8))

/-- The CRC-CCITT of bytes, continuing from `start`. -/
def crcHqx (start : UInt16) (bytes : List UInt8) : UInt16 := bytes.foldl crcHqxByte start

end ItemRecommender.Binary
