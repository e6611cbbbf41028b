import Mathlib
import ItemRecommender.Text.Utf8
import ItemRecommender.Workspace

/-! # Decoding what was encoded

    The strict decoder reads back every text that was written as UTF-8: decoding the bytes of
    `String.toUTF8` gives the characters of the string (`decodeUtf8_toUTF8`). The proof follows
    the encoding one character at a time (`decodeFrom_utf8EncodeChar`): the lead byte of a
    character of `n` bytes opens a character owing `n - 1` continuation bytes, each of them lies
    in the range its place allows, and the bits they gather are the character's code point. The
    encoding of a surrogate, the one place where the ranges are narrower, never occurs, since a
    character is never a surrogate. -/

namespace ItemRecommender.Text

/-- A byte where a character may start, whatever follows it: the surrogate check of the decoder
that lets surrogates pass is off. -/
theorem decodeFrom_none_cons (pos : Nat) (done : List Char) (b : UInt8) (rest : List UInt8) :
    decodeFrom false pos done none (b :: rest) =
      match leadStep pos b with
      | .fault e => .error e
      | .whole ch => decodeFrom false (pos + 1) (ch :: done) none rest
      | .opened p => decodeFrom false (pos + 1) done (some p) rest := by
  match rest with
  | [] | [_] | _ :: _ :: _ => rfl

/-- A continuation byte in the range its place allows. -/
theorem decodeFrom_some_cons (pos : Nat) (done : List Char) (p : Partial) (b : UInt8)
    (rest : List UInt8) (hb : p.low ≤ b.toNat ∧ b.toNat ≤ p.high) :
    decodeFrom false pos done (some p) (b :: rest) =
      if p.owed = 1 then decodeFrom false (pos + 1) (Char.ofNat (p.bits * 64 + b.toNat % 64) :: done) none rest
      else decodeFrom false (pos + 1) done
        (some { p with read := p.read + 1, owed := p.owed - 1, low := 0x80, high := 0xBF,
                       bits := p.bits * 64 + b.toNat % 64 }) rest := by
  simp [decodeFrom, hb]

/-- A byte of value `n` below 256. -/
theorem toNat_ofNat_of_lt {n : Nat} (h : n < 256) : (UInt8.ofNat n).toNat = n := by
  simp [Nat.mod_eq_of_lt h]

/-- A character of one byte. -/
theorem decodeFrom_one (pos : Nat) (done : List Char) (c : Char) (rest : List UInt8)
    (h : c.toNat ≤ 0x7F) :
    decodeFrom false pos done none (UInt8.ofNat c.toNat :: rest) =
      decodeFrom false (pos + 1) (c :: done) none rest := by
  have hb := toNat_ofNat_of_lt (n := c.toNat) (by omega)
  rw [decodeFrom_none_cons]
  simp only [leadStep, hb, leadShape, if_pos h, Char.ofNat_toNat]

/-- A character of two bytes. -/
theorem decodeFrom_two (pos : Nat) (done : List Char) (c : Char) (rest : List UInt8)
    (h1 : 0x7F < c.toNat) (h2 : c.toNat ≤ 0x7FF) :
    decodeFrom false pos done none
        (UInt8.ofNat (c.toNat / 64 % 0x20 + 0xC0) :: UInt8.ofNat (c.toNat % 0x40 + 0x80) :: rest) =
      decodeFrom false (pos + 2) (c :: done) none rest := by
  have hb0 := toNat_ofNat_of_lt (n := c.toNat / 64 % 0x20 + 0xC0) (by omega)
  have hb1 := toNat_ofNat_of_lt (n := c.toNat % 0x40 + 0x80) (by omega)
  rw [decodeFrom_none_cons]
  simp only [leadStep, hb0, leadShape, if_neg (show ¬ c.toNat / 64 % 0x20 + 0xC0 ≤ 0x7F by omega),
    if_pos (show 0xC2 ≤ c.toNat / 64 % 0x20 + 0xC0 ∧ c.toNat / 64 % 0x20 + 0xC0 ≤ 0xDF by omega)]
  rw [decodeFrom_some_cons _ _ _ _ _ (by simp only [hb1]; omega)]
  have hbits : leadBits (c.toNat / 64 % 0x20 + 0xC0) * 64 + (c.toNat % 0x40 + 0x80) % 64 = c.toNat := by
    simp only [leadBits]
    rw [if_neg (by omega), if_pos (by omega)]
    omega
  simp only [hb1, hbits, if_true, Char.ofNat_toNat]

/-- The lead byte of a character of three bytes that is no surrogate owes two continuation
bytes, the first in a range that holds the character's second byte. -/
theorem leadShape_three {c : Nat} (h1 : 0x7FF < c) (h2 : c ≤ 0xFFFF) (hs : c < 0xD800 ∨ 0xDFFF < c) :
    ∃ lo hi, leadShape (c / 4096 % 0x10 + 0xE0) = some (2, lo, hi) ∧
      lo ≤ c / 64 % 0x40 + 0x80 ∧ c / 64 % 0x40 + 0x80 ≤ hi := by
  -- only the lead bytes `0xE0` and `0xED` narrow the range, as the character's bounds do
  have hE0 : c / 4096 % 0x10 + 0xE0 = 0xE0 → 0xA0 ≤ c / 64 % 0x40 + 0x80 := by omega
  have hED : c / 4096 % 0x10 + 0xE0 = 0xED → c / 64 % 0x40 + 0x80 ≤ 0x9F := by omega
  have ht : 0x80 ≤ c / 64 % 0x40 + 0x80 ∧ c / 64 % 0x40 + 0x80 ≤ 0xBF := by omega
  have hb : 0xE0 ≤ c / 4096 % 0x10 + 0xE0 ∧ c / 4096 % 0x10 + 0xE0 ≤ 0xEF := by omega
  generalize c / 4096 % 0x10 + 0xE0 = b at *
  generalize c / 64 % 0x40 + 0x80 = t at *
  obtain ⟨hb1, hb2⟩ := hb
  interval_cases b <;> exact ⟨_, _, rfl, by omega, by omega⟩

/-- The lead byte of a character of four bytes owes three continuation bytes, the first in a
range that holds the character's second byte. -/
theorem leadShape_four {c : Nat} (h1 : 0xFFFF < c) (h2 : c < 0x110000) :
    ∃ lo hi, leadShape (c / 262144 % 0x08 + 0xF0) = some (3, lo, hi) ∧
      lo ≤ c / 4096 % 0x40 + 0x80 ∧ c / 4096 % 0x40 + 0x80 ≤ hi := by
  -- the lead bytes `0xF0` and `0xF4` narrow the range, as the character's bounds do
  have hF0 : c / 262144 % 0x08 + 0xF0 = 0xF0 → 0x90 ≤ c / 4096 % 0x40 + 0x80 := by omega
  have hF4 : c / 262144 % 0x08 + 0xF0 = 0xF4 → c / 4096 % 0x40 + 0x80 ≤ 0x8F := by omega
  have ht : 0x80 ≤ c / 4096 % 0x40 + 0x80 ∧ c / 4096 % 0x40 + 0x80 ≤ 0xBF := by omega
  have hb : 0xF0 ≤ c / 262144 % 0x08 + 0xF0 ∧ c / 262144 % 0x08 + 0xF0 ≤ 0xF4 := by omega
  generalize c / 262144 % 0x08 + 0xF0 = b at *
  generalize c / 4096 % 0x40 + 0x80 = t at *
  obtain ⟨hb1, hb2⟩ := hb
  interval_cases b <;> exact ⟨_, _, rfl, by omega, by omega⟩

/-- A character of three bytes: never a surrogate, so its second byte lies in the narrower
range that the lead bytes `0xE0` and `0xED` allow. -/
theorem decodeFrom_three (pos : Nat) (done : List Char) (c : Char) (rest : List UInt8)
    (h1 : 0x7FF < c.toNat) (h2 : c.toNat ≤ 0xFFFF) (hs : c.toNat < 0xD800 ∨ 0xDFFF < c.toNat) :
    decodeFrom false pos done none
        (UInt8.ofNat (c.toNat / 4096 % 0x10 + 0xE0) :: UInt8.ofNat (c.toNat / 64 % 0x40 + 0x80) ::
          UInt8.ofNat (c.toNat % 0x40 + 0x80) :: rest) =
      decodeFrom false (pos + 3) (c :: done) none rest := by
  have hb0 := toNat_ofNat_of_lt (n := c.toNat / 4096 % 0x10 + 0xE0) (by omega)
  have hb1 := toNat_ofNat_of_lt (n := c.toNat / 64 % 0x40 + 0x80) (by omega)
  have hb2 := toNat_ofNat_of_lt (n := c.toNat % 0x40 + 0x80) (by omega)
  have hlead : leadBits (c.toNat / 4096 % 0x10 + 0xE0) = c.toNat / 4096 := by
    simp only [leadBits]
    rw [if_neg (by omega), if_neg (by omega), if_pos (by omega)]
    omega
  obtain ⟨lo, hi, hshape, hlo, hhi⟩ := leadShape_three h1 h2 hs
  rw [decodeFrom_none_cons]
  simp only [leadStep, hb0, hshape]
  rw [decodeFrom_some_cons _ _ _ _ _ (by simp only [hb1]; omega)]
  simp only [hb1, hlead, if_neg (show (2 : Nat) ≠ 1 by decide)]
  rw [decodeFrom_some_cons _ _ _ _ _ (by simp only [hb2]; omega)]
  have hbits : (c.toNat / 4096 * 64 + (c.toNat / 64 % 0x40 + 0x80) % 64) * 64 +
      (c.toNat % 0x40 + 0x80) % 64 = c.toNat := by omega
  simp only [hb2, hbits, if_true, Char.ofNat_toNat]

/-- A character of four bytes: its second byte lies in the narrower range that the lead bytes
`0xF0` and `0xF4` allow, since the character lies between `0x10000` and `0x10FFFF`. -/
theorem decodeFrom_four (pos : Nat) (done : List Char) (c : Char) (rest : List UInt8)
    (h1 : 0xFFFF < c.toNat) (h2 : c.toNat < 0x110000) :
    decodeFrom false pos done none
        (UInt8.ofNat (c.toNat / 262144 % 0x08 + 0xF0) :: UInt8.ofNat (c.toNat / 4096 % 0x40 + 0x80) ::
          UInt8.ofNat (c.toNat / 64 % 0x40 + 0x80) :: UInt8.ofNat (c.toNat % 0x40 + 0x80) :: rest) =
      decodeFrom false (pos + 4) (c :: done) none rest := by
  have hb0 := toNat_ofNat_of_lt (n := c.toNat / 262144 % 0x08 + 0xF0) (by omega)
  have hb1 := toNat_ofNat_of_lt (n := c.toNat / 4096 % 0x40 + 0x80) (by omega)
  have hb2 := toNat_ofNat_of_lt (n := c.toNat / 64 % 0x40 + 0x80) (by omega)
  have hb3 := toNat_ofNat_of_lt (n := c.toNat % 0x40 + 0x80) (by omega)
  have hlead : leadBits (c.toNat / 262144 % 0x08 + 0xF0) = c.toNat / 262144 := by
    simp only [leadBits]
    rw [if_neg (by omega), if_neg (by omega), if_neg (by omega)]
    omega
  obtain ⟨lo, hi, hshape, hlo, hhi⟩ := leadShape_four h1 h2
  rw [decodeFrom_none_cons]
  simp only [leadStep, hb0, hshape]
  rw [decodeFrom_some_cons _ _ _ _ _ (by simp only [hb1]; omega)]
  simp only [hb1, hlead, if_neg (show (3 : Nat) ≠ 1 by decide)]
  rw [decodeFrom_some_cons _ _ _ _ _ (by simp only [hb2]; omega)]
  simp only [hb2, show (3 : Nat) - 1 ≠ 1 by decide, if_false]
  rw [decodeFrom_some_cons _ _ _ _ _ (by simp only [hb3]; omega)]
  have hbits : ((c.toNat / 262144 * 64 + (c.toNat / 4096 % 0x40 + 0x80) % 64) * 64 +
      (c.toNat / 64 % 0x40 + 0x80) % 64) * 64 + (c.toNat % 0x40 + 0x80) % 64 = c.toNat := by
    omega
  simp only [hb3, hbits, show (3 : Nat) - 1 - 1 = 1 by decide, if_true, Char.ofNat_toNat]

/-- The bytes of one character decode to it, whatever follows them. -/
theorem decodeFrom_utf8EncodeChar (pos : Nat) (done : List Char) (c : Char) (rest : List UInt8) :
    decodeFrom false pos done none (String.utf8EncodeChar c ++ rest) =
      decodeFrom false (pos + (String.utf8EncodeChar c).length) (c :: done) none rest := by
  have hvalid : c.toNat < 0xD800 ∨ (0xDFFF < c.toNat ∧ c.toNat < 0x110000) := c.valid
  simp only [String.utf8EncodeChar, show c.val.toNat = c.toNat from rfl]
  split_ifs with h1 h2 h3
  · exact decodeFrom_one pos done c rest h1
  · exact decodeFrom_two pos done c rest (by omega) h2
  · exact decodeFrom_three pos done c rest (by omega) h3 (by omega)
  · exact decodeFrom_four pos done c rest (by omega) (by omega)

/-- The bytes of a list of characters decode to them, whatever follows. -/
theorem decodeFrom_flatMap (pos : Nat) (done cs : List Char) (rest : List UInt8) :
    decodeFrom false pos done none (cs.flatMap String.utf8EncodeChar ++ rest) =
      decodeFrom false (pos + (cs.flatMap String.utf8EncodeChar).length) (cs.reverse ++ done) none
        rest := by
  induction cs generalizing pos done with
  | nil => simp
  | cons c cs ih =>
    rw [List.flatMap_cons, List.append_assoc, decodeFrom_utf8EncodeChar, ih]
    simp [Nat.add_assoc]

theorem decodeUtf8_flatMap (cs : List Char) :
    decodeUtf8 (cs.flatMap String.utf8EncodeChar) = .ok cs := by
  have h := decodeFrom_flatMap 0 [] cs []
  rw [List.append_nil] at h
  rw [decodeUtf8, h]
  simp [decodeFrom]

/-- The loop of `ByteArray.toList` from position `i`, after the bytes `r` (reversed). -/
theorem toList_loop (bs : ByteArray) (i : Nat) (r : List UInt8) :
    ByteArray.toList.loop bs i r = r.reverse ++ bs.data.toList.drop i := by
  fun_induction ByteArray.toList.loop bs i r with
  | case1 i r h ih =>
    have hi : i < bs.data.toList.length := by simpa using h
    rw [ih, List.drop_eq_getElem_cons hi]
    simp [ByteArray.get!, getElem!_pos bs.data i h]
  | case2 i r h =>
    have hi : bs.data.toList.length ≤ i := by simpa using h
    simp [List.drop_eq_nil_of_le hi]

/-- The bytes of a byte array, in order. -/
theorem toList_eq_data (bs : ByteArray) : bs.toList = bs.data.toList := by
  simp [ByteArray.toList, toList_loop]

/-- Decoding the UTF-8 bytes of a string gives its characters back. -/
theorem decodeUtf8_toUTF8 (s : String) : decodeUtf8 s.toUTF8.toList = .ok s.toList := by
  rw [String.toUTF8_eq_toByteArray, ← String.utf8Encode_toList, List.utf8Encode, toList_eq_data,
    List.toList_data_toByteArray]
  exact decodeUtf8_flatMap _

end ItemRecommender.Text

namespace ItemRecommender.Workspace

/-- A file written as the UTF-8 bytes of a text reads back as that text. -/
@[simp] theorem decodeText_toUTF8 {α : Type} (s : String) :
    decodeText (.bytes s.toUTF8.toList : Content α) = .ok s := by
  rw [decodeText, Text.decodeUtf8_toUTF8]
  simp [pure, Except.pure]

end ItemRecommender.Workspace
