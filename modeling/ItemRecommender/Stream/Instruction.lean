/-! # Instructions of a dataset stream

    A dataset stream is a sequence of instructions, each one byte followed by its argument, if it
    has one. `Instruction.ofByte?` names the instruction a byte stands for; any other byte starts
    no instruction. Arguments are fixed-width little-endian counts, counted runs of bytes, or
    lines that end in a line feed. -/

namespace ItemRecommender.Stream

/-- An instruction of a dataset stream. -/
inductive Instruction where
  /-- Sets a mark at the top of the stack. -/
  | mark
  /-- Ends the stream; its value is the top of the stack. -/
  | stop
  /-- Drops the top value, or the top mark when it stands at the top. -/
  | pop
  /-- Drops the values above the top mark and the mark. -/
  | popMark
  /-- Pushes the top value again. -/
  | dup
  /-- An integer written on a line, the way old streams write it. -/
  | intLine
  /-- An integer literal written on a line. -/
  | longLine
  /-- A double written on a line. -/
  | floatLine
  /-- A signed 32-bit integer. -/
  | int4
  /-- An unsigned 8-bit integer. -/
  | int1
  /-- An unsigned 16-bit integer. -/
  | int2
  /-- A two's complement integer of a counted number of bytes, the count in 1 byte. -/
  | long1
  /-- A two's complement integer of a counted number of bytes, the count in 4 bytes. -/
  | long4
  /-- A double in 8 bytes, most significant first. -/
  | float8
  | none
  | newTrue
  | newFalse
  /-- A quoted byte string with escapes on a line, read as ASCII text. -/
  | quotedString
  /-- Counted bytes read as ASCII text, the count in 4 bytes. -/
  | string4
  /-- Counted bytes read as ASCII text, the count in 1 byte. -/
  | string1
  /-- A text with `\u` escapes on a line. -/
  | unicodeLine
  /-- Counted UTF-8 text, the count in 4 bytes. -/
  | unicode4
  /-- Counted UTF-8 text, the count in 1 byte. -/
  | unicode1
  /-- Counted UTF-8 text, the count in 8 bytes. -/
  | unicode8
  | bytes4
  | bytes1
  | bytes8
  | bytearray8
  /-- Out-of-band data, which a dataset never has. -/
  | nextBuffer
  /-- Makes the top byte string read-only. -/
  | readonlyBuffer
  | emptyTuple
  | tuple
  | tuple1
  | tuple2
  | tuple3
  | emptyList
  | list
  | emptyDict
  | dict
  | emptySet
  | frozenset
  /-- Appends the top value to the list below it. -/
  | append
  /-- Appends the values above the top mark to the list below it. -/
  | appends
  /-- Puts a key and a value into the map below them. -/
  | setItem
  /-- Puts the pairs above the top mark into the map below it. -/
  | setItems
  /-- Adds the values above the top mark to the set below it. -/
  | addItems
  /-- A module and a name on two lines. -/
  | global
  /-- A module and a name from the stack. -/
  | stackGlobal
  | inst
  | obj
  | newObj
  | newObjEx
  | reduce
  | build
  | ext1
  | ext2
  | ext4
  | persistentId
  | persistentIdStack
  /-- Pushes the memo entry whose index is written on a line. -/
  | get
  | binGet
  | longBinGet
  /-- Stores the top value in the memo under an index written on a line. -/
  | put
  | binPut
  | longBinPut
  /-- Stores the top value in the memo under the next free index. -/
  | memoize
  /-- Names the version of the stream. -/
  | proto
  /-- Announces a frame of a counted number of bytes. -/
  | frame
  deriving DecidableEq, Repr

namespace Instruction

/-- The instruction a byte stands for. -/
def ofByte? (b : UInt8) : Option Instruction :=
  match b.toNat with
  | 0x28 => some .mark
  | 0x2E => some .stop
  | 0x30 => some .pop
  | 0x31 => some .popMark
  | 0x32 => some .dup
  | 0x46 => some .floatLine
  | 0x49 => some .intLine
  | 0x4A => some .int4
  | 0x4B => some .int1
  | 0x4C => some .longLine
  | 0x4D => some .int2
  | 0x4E => some .none
  | 0x50 => some .persistentId
  | 0x51 => some .persistentIdStack
  | 0x52 => some .reduce
  | 0x53 => some .quotedString
  | 0x54 => some .string4
  | 0x55 => some .string1
  | 0x56 => some .unicodeLine
  | 0x58 => some .unicode4
  | 0x61 => some .append
  | 0x62 => some .build
  | 0x63 => some .global
  | 0x64 => some .dict
  | 0x7D => some .emptyDict
  | 0x65 => some .appends
  | 0x67 => some .get
  | 0x68 => some .binGet
  | 0x69 => some .inst
  | 0x6A => some .longBinGet
  | 0x6C => some .list
  | 0x5D => some .emptyList
  | 0x6F => some .obj
  | 0x70 => some .put
  | 0x71 => some .binPut
  | 0x72 => some .longBinPut
  | 0x73 => some .setItem
  | 0x74 => some .tuple
  | 0x29 => some .emptyTuple
  | 0x75 => some .setItems
  | 0x47 => some .float8
  | 0x80 => some .proto
  | 0x81 => some .newObj
  | 0x82 => some .ext1
  | 0x83 => some .ext2
  | 0x84 => some .ext4
  | 0x85 => some .tuple1
  | 0x86 => some .tuple2
  | 0x87 => some .tuple3
  | 0x88 => some .newTrue
  | 0x89 => some .newFalse
  | 0x8A => some .long1
  | 0x8B => some .long4
  | 0x42 => some .bytes4
  | 0x43 => some .bytes1
  | 0x8C => some .unicode1
  | 0x8D => some .unicode8
  | 0x8E => some .bytes8
  | 0x8F => some .emptySet
  | 0x90 => some .addItems
  | 0x91 => some .frozenset
  | 0x92 => some .newObjEx
  | 0x93 => some .stackGlobal
  | 0x94 => some .memoize
  | 0x95 => some .frame
  | 0x96 => some .bytearray8
  | 0x97 => some .nextBuffer
  | 0x98 => some .readonlyBuffer
  | _ => Option.none

end Instruction

end ItemRecommender.Stream
