import ItemRecommender.Binary.Base32
/-!
# Base85 and Ascii85

Both write each four bytes, read as one number, as five digits of base 85, most significant
first (`encode85`). Ascii85 takes its digits from `!` to `u` and writes a group of four zero
bytes as the one letter `z`; Base85 takes the digits of `base85Alphabet`. A last group of one to
three bytes is padded with zero bytes, written whole, and cut to one digit more than it has
bytes (a `z` written out first).

Reading Ascii85 (`ascii85Decode`) skips blanks, takes `z` for four zero bytes only between
groups, and refuses any other byte that is no digit; a group whose number does not fit four
bytes overflows. A last group of two to four digits is completed with the highest digit and
keeps one byte fewer than it has digits.

Reading Base85 (`base85Decode`) completes the text with the highest digit to a multiple of five
first, then reads group by group: a byte that is no digit is refused with its position, a group
that does not fit four bytes with the position where it starts.
-/

namespace ItemRecommender.Binary

/-- The digit of Ascii85 of a value below 85: the bytes from `!` on. -/
def ascii85Digit (v : Nat) : UInt8 := (33 + v).toUInt8

/-- The digits of Base85, in the order of their values. -/
def base85Alphabet : List Char :=
  "0123456789ABCDEFGHIJKLMNOPQRSTUVWXYZabcdefghijklmnopqrstuvwxyz!#$%&()*+-;<=>?@^_`\x7b|\x7d~".toList

/-- The digit of Base85 of a value below 85. -/
def base85Digit (v : Nat) : UInt8 := byteOf (base85Alphabet.getD v '0')

/-- The letter that stands for four zero bytes in Ascii85. -/
def zeroLetter : UInt8 := 122

/-- The four bytes, most significant first, of a number below `2 ^ 32`. -/
def fourBytes (n : Nat) : List UInt8 :=
  (List.range 4).map fun i => (n / Nat.pow 256 (3 - i) % 256).toUInt8

/-- The five digits of a number below `2 ^ 32`. -/
def fiveDigits (digit : Nat → UInt8) (n : Nat) : List UInt8 :=
  (List.range 5).map fun i => digit (n / Nat.pow 85 (4 - i) % 85)

/-- The text of bytes in base 85 with the digits `digit`; `foldZeros` writes a group of four
zero bytes as `z`. A last short group keeps one digit more than it has bytes. -/
def encode85 (digit : Nat → UInt8) (foldZeros : Bool) (bytes : List UInt8) : List UInt8 :=
  let padding := (4 - bytes.length % 4) % 4
  let words := (byteGroups 4 (bytes ++ List.replicate padding 0)).map (groupNumber · 4)
  let chunks := words.map fun w =>
    if foldZeros && w == 0 then [zeroLetter] else fiveDigits digit w
  let chunks :=
    match padding, chunks.getLast? with
    | 0, _ | _, none => chunks
    | _, some last =>
      let last := if last == [zeroLetter] then List.replicate 5 (digit 0) else last
      chunks.dropLast ++ [last.take (last.length - padding)]
  chunks.flatten

/-- The Ascii85 text of bytes. -/
def ascii85Encode (bytes : List UInt8) : List UInt8 := encode85 ascii85Digit true bytes

/-- The Base85 text of bytes; `pad` pads the bytes with zero bytes to whole groups first. -/
def base85Encode (pad : Bool) (bytes : List UInt8) : List UInt8 :=
  let bytes := if pad then bytes ++ List.replicate ((4 - bytes.length % 4) % 4) 0 else bytes
  encode85 base85Digit false bytes

/-- Why a text in base 85 cannot be read. -/
inductive Base85Fault where
  | overflow
  | zeroInside
  | notAscii85 (b : UInt8)
  | badCharacter (position : Nat)
  | hunkOverflow (start : Nat)
  deriving DecidableEq, Repr

/-- The words of a fault of base 85. -/
def Base85Fault.message : Base85Fault → String
  | .overflow => "Ascii85 overflow"
  | .zeroInside => "z inside Ascii85 5-tuple"
  | .notAscii85 b => "Non-Ascii85 digit found: " ++ (Char.ofNat b.toNat).toString
  | .badCharacter i => "bad base85 character at position " ++ toString i
  | .hunkOverflow i => "base85 overflow in hunk starting at byte " ++ toString i

/-- The largest number four bytes hold, plus one. -/
def wordBound : Nat := Nat.pow 2 32

/-- The number of digits of base 85, most significant first. -/
def number85 (digits : List Nat) : Nat := digits.foldl (fun n d => n * 85 + d) 0

/-- The blanks Ascii85 skips. -/
def ascii85Blanks : List UInt8 := [32, 9, 10, 13, 11]

/-- Reads the rest of an Ascii85 text: `group` holds the digits of the group begun. -/
def ascii85Read (bytes : Array UInt8) (group : List Nat) :
    List UInt8 → Except Base85Fault (List UInt8)
  | [] =>
    let cut := 4 - group.length
    pure (bytes.toList.take (bytes.size - cut))
  | b :: rest =>
    if 33 ≤ b ∧ b ≤ 117 then
      let group := group ++ [b.toNat - 33]
      if group.length = 5 then
        let n := number85 group
        if wordBound ≤ n then throw .overflow
        else ascii85Read (bytes ++ (fourBytes n).toArray) [] rest
      else ascii85Read bytes group rest
    else if b = zeroLetter then
      if !group.isEmpty then throw .zeroInside
      else ascii85Read (bytes ++ #[0, 0, 0, 0]) group rest
    else if ascii85Blanks.contains b then ascii85Read bytes group rest
    else throw (.notAscii85 b)

/-- The bytes of an Ascii85 text. -/
def ascii85Decode (text : List UInt8) : Except Base85Fault (List UInt8) :=
  ascii85Read #[] [] (text ++ List.replicate 4 117)

/-- Reads groups of five Base85 digits, the first starting at byte `start`. -/
def base85Groups (start : Nat) : List (List UInt8) → Except Base85Fault (List UInt8)
  | [] => pure []
  | g :: rest => do
    let values ← match g.mapM (digitValue? base85Alphabet) with
      | some vs => pure vs
      | none =>
        throw (.badCharacter (start + g.findIdx fun b => (digitValue? base85Alphabet b).isNone))
    let n := number85 values
    if wordBound ≤ n then throw (.hunkOverflow start)
    pure (fourBytes n ++ (← base85Groups (start + 5) rest))

/-- The bytes of a Base85 text. -/
def base85Decode (text : List UInt8) : Except Base85Fault (List UInt8) := do
  let padding := (5 - text.length % 5) % 5
  let out ← base85Groups 0 (byteGroups 5 (text ++ List.replicate padding (byteOf '~')))
  pure (out.take (out.length - padding))

end ItemRecommender.Binary
