import Mathlib
import ItemRecommender.Decimal.Format
import ItemRecommender.Decimal.Literal

/-! # Written numbers

    The characters numbers are written with. An integer is written as a minus sign when it is
    negative and then the ASCII digits of its magnitude (`toList_toString_int`); those digits
    read back as the magnitude (`digitsValue_toDigits`), so the lenient integer reader gives the
    integer back when it has at most `maxIntDigits` digits (`readInt_toString`). A score is
    written with digits, the point, the exponent mark and signs, or the letters of `nan` and
    `inf` (`numeralChar_of_mem_render`), none of which separates the fields of a line. -/

namespace ItemRecommender.Decimal

open ItemRecommender.Text

/-! ## Integers -/

theorem digitsValue_append_singleton (ds : List Nat) (d : Nat) :
    digitsValue (ds ++ [d]) = digitsValue ds * 10 + d := by
  simp [digitsValue]

/-- **The digits of a number read back as the number.** -/
theorem digitsValue_toDigits (n : Nat) :
    digitsValue ((Nat.toDigits 10 n).map fun c => c.toNat - 48) = n := by
  induction n using Nat.strong_induction_on with
  | _ n ih =>
    rcases Nat.lt_or_ge n 10 with hn | hn
    · rw [Nat.toDigits_of_lt_base hn]
      simp [digitsValue, Nat.toNat_digitChar_of_lt_ten hn]
    · -- the digits of `n / 10`, then the last digit
      have hlast : n % 10 < 10 := Nat.mod_lt _ (by decide)
      have hsplit : Nat.toDigits 10 n = Nat.toDigits 10 (n / 10) ++ [Nat.digitChar (n % 10)] := by
        rw [← Nat.toDigits_of_lt_base hlast,
          Nat.toDigits_append_toDigits (by decide) (by omega) hlast, Nat.div_add_mod]
      rw [hsplit, List.map_append, List.map_singleton, digitsValue_append_singleton,
        ih _ (by omega), Nat.toNat_digitChar_of_lt_ten hlast]
      omega

theorem isDigit_of_mem_toDigits {n : Nat} {c : Char} (h : c ∈ Nat.toDigits 10 n) : c.isDigit :=
  Nat.isDigit_of_mem_toDigits (by decide) (by decide) h

/-- An integer is written as a minus sign if it is negative, then the digits of its magnitude. -/
theorem toList_toString_int (u : Int) :
    (toString u).toList = (if u < 0 then ['-'] else []) ++ Nat.toDigits 10 u.natAbs := by
  cases u with
  | ofNat m => simp [toString, Int.repr, Nat.toList_repr]
  | negSucc m => simp [toString, Int.repr, Nat.toList_repr]

example : (toString (-120 : Int)).toList = ['-', '1', '2', '0'] := by decide

theorem toNat_of_isDigit {c : Char} (h : c.isDigit) : 48 ≤ c.toNat ∧ c.toNat ≤ 57 := by
  simp only [Char.isDigit, Bool.and_eq_true, decide_eq_true_eq] at h
  exact ⟨h.1, h.2⟩

/-! ## Reading an integer back -/

theorem isAsciiSpace_of_isDigit {c : Char} (h : c.isDigit) : isAsciiSpace c = false := by
  have hdigit := toNat_of_isDigit h
  cases hspace : isAsciiSpace c
  · rfl
  · have : c.toNat ≤ 32 := by
      simp only [isAsciiSpace, Bool.or_eq_true, decide_eq_true_eq] at hspace
      rcases hspace with (((((rfl | rfl) | rfl) | rfl) | rfl) | rfl) <;> decide
    omega

/-- ASCII text is its own ASCII form. -/
theorem asciiForm_of_lt {s : List Char} (h : ∀ c ∈ s, c.toNat < 0x7F) : asciiForm s = s := by
  rw [asciiForm]
  conv_rhs => rw [← List.map_id s]
  exact List.map_congr_left fun c hc => if_pos (h c hc)

theorem asciiDigit?_of_isDigit {c : Char} (h : c.isDigit) : asciiDigit? c = some (c.toNat - 48) := by
  simp only [Char.isDigit, Bool.and_eq_true, decide_eq_true_eq] at h
  rw [asciiDigit?, if_pos ⟨h.1, h.2⟩]
  rfl

theorem scanDigits_of_isDigit {ds : List Char} (h : ∀ c ∈ ds, c.isDigit) :
    scanDigits ds = some (ds.map fun c => c.toNat - 48, []) := by
  induction ds with
  | nil => rfl
  | cons c ds ih =>
    have hc := h c List.mem_cons_self
    have hne : c ≠ '_' := by rintro rfl; cases hc
    simp [scanDigits, asciiDigit?_of_isDigit hc, ih fun d hd => h d (List.mem_cons_of_mem c hd)]

/-- The reader takes a leading minus sign as the sign of the digits after it. -/
theorem spanSign_signed (negative : Bool) {D : List Char} (hD : ∀ c ∈ D.head?, c.isDigit) :
    spanSign ((if negative then ['-'] else []) ++ D) = (negative, D) := by
  cases negative with
  | true => rfl
  | false =>
    cases D with
    | nil => rfl
    | cons c D =>
      have hc : c.isDigit := hD c rfl
      have h1 : c ≠ '-' := by rintro rfl; cases hc
      have h2 : c ≠ '+' := by rintro rfl; cases hc
      simp [spanSign, h1, h2]

/-- The reader reads an optional minus sign and ASCII digits, at most `maxIntDigits` of them, as
the signed value of the digits. -/
theorem readInt_signed (negative : Bool) {D : List Char} (hD : ∀ c ∈ D, c.isDigit) (hne : D ≠ [])
    (hlen : D.length ≤ maxIntDigits) :
    readInt ((if negative then ['-'] else []) ++ D) =
      .ok (if negative then -(digitsValue (D.map fun c => c.toNat - 48) : Int)
        else digitsValue (D.map fun c => c.toNat - 48)) := by
  obtain ⟨d, D', rfl⟩ := List.exists_cons_of_ne_nil hne
  have hd : d.isDigit := hD d List.mem_cons_self
  have hascii : ∀ c ∈ (if negative then ['-'] else []) ++ d :: D', c.toNat < 0x7F := by
    intro c hc
    have : c = '-' ∨ c.isDigit := by
      cases negative <;> simp at hc <;> grind
    rcases this with rfl | hc
    · decide
    · have := toNat_of_isDigit hc
      omega
  -- no blank comes first: the text starts with the sign or a digit
  have hstart : ((if negative then ['-'] else []) ++ d :: D').dropWhile isAsciiSpace =
      (if negative then ['-'] else []) ++ d :: D' := by
    cases negative
    · exact List.dropWhile_cons_of_neg (by simp [isAsciiSpace_of_isDigit hd])
    · exact List.dropWhile_cons_of_neg (by decide)
  unfold readInt
  rw [asciiForm_of_lt hascii, hstart, spanSign_signed negative (by simpa using hd)]
  have hhead : d ≠ '_' := by rintro rfl; cases hd
  have hshort : ¬ maxIntDigits ≤ D'.length := by
    simp only [List.length_cons] at hlen
    omega
  simp [scanDigits_of_isDigit hD, hhead, hshort]
  rfl

/-- An integer is its magnitude with its sign. -/
theorem signed_natAbs (u : Int) :
    (if decide (u < 0) = true then -(u.natAbs : Int) else u.natAbs) = u := by
  by_cases hu : u < 0
  · rw [if_pos (decide_eq_true hu)]
    omega
  · rw [if_neg (by simpa using hu)]
    omega

/-- **The integer reader gives back an integer written with at most `maxIntDigits` digits.** -/
theorem readInt_toString (u : Int) (h : decimalLength u.natAbs ≤ maxIntDigits) :
    readInt (toString u).toList = .ok u := by
  have htext : (toString u).toList =
      (if decide (u < 0) then ['-'] else []) ++ Nat.toDigits 10 u.natAbs := by
    rw [toList_toString_int]
    simp
  rw [htext, readInt_signed _ (fun c hc => isDigit_of_mem_toDigits hc) Nat.toDigits_ne_nil h,
    digitsValue_toDigits]
  exact congrArg Except.ok (signed_natAbs u)

/-! ## The characters of numbers -/

/-- The characters numbers are written with: digits, the point, the exponent mark, the signs,
and the letters of `nan` and `inf`. -/
def numeralChar (c : Char) : Bool :=
  c.isDigit || c = '.' || c = 'e' || c = '-' || c = '+' || c = 'n' || c = 'a' || c = 'i' || c = 'f'

theorem numeralChar_of_isDigit {c : Char} (h : c.isDigit) : numeralChar c := by
  simp [numeralChar, h]

/-- No character of a number separates the fields of a recommendation line or ends it. -/
theorem ne_separator_of_numeralChar {c : Char} (h : numeralChar c) :
    c ≠ ',' ∧ c ≠ ':' ∧ c ≠ '\t' ∧ c ≠ '\n' ∧ c ≠ '\r' := by
  refine ⟨?_, ?_, ?_, ?_, ?_⟩ <;> rintro rfl <;> simp [numeralChar] at h

theorem numeralChar_of_mem_toString_int (u : Int) : ∀ c ∈ (toString u).toList, numeralChar c := by
  rw [toList_toString_int]
  intro c hc
  rcases List.mem_append.1 hc with hc | hc
  · split at hc <;> simp_all [numeralChar]
  · exact numeralChar_of_isDigit (isDigit_of_mem_toDigits hc)

/-- A laid-out number holds its digits, the digits of its exponent and marks. -/
theorem numeralChar_of_mem_place (f : Layout) {ds : List Char} (hds : ∀ c ∈ ds, c.isDigit) (k : Int) :
    ∀ c ∈ f.place ds k, numeralChar c := by
  intro c hc
  simp only [Layout.place] at hc
  -- a character of `ds`, a digit of the exponent, or a mark
  have hcases : c ∈ ds ∨ c ∈ decimalChars (ds.length - 1 + k : Int).natAbs ∨
      c ∈ ['0', '.', 'e', '-', '+'] := by
    grind [List.mem_of_mem_take, List.mem_of_mem_drop]
  rcases hcases with hc | hc | hc
  · exact numeralChar_of_isDigit (hds c hc)
  · exact numeralChar_of_isDigit (isDigit_of_mem_toDigits hc)
  · simp only [List.mem_cons, List.not_mem_nil, or_false] at hc
    rcases hc with rfl | rfl | rfl | rfl | rfl <;> rfl

/-- **A score is written with the characters of numbers only.** -/
theorem numeralChar_of_mem_render (x : Float) :
    ∀ c ∈ (Layout.score.render x).toList, numeralChar c := by
  have hmark : ∀ c ∈ ['-', '0', '.', 'n', 'a', 'i', 'f'], numeralChar c := by
    simp [numeralChar]
  intro c hc
  unfold Layout.render at hc
  split at hc
  · -- an infinity or a NaN: `nan`, `-inf` or `inf`
    split_ifs at hc <;> simp [Layout.score] at hc <;> exact hmark c (by grind)
  · -- a sign, then zero or the shortest digits laid out
    split_ifs at hc <;> simp at hc
    · exact hmark c (by grind)
    · rcases hc with rfl | hc
      · exact hmark '-' (by simp)
      · exact numeralChar_of_mem_place _ (fun c hc => isDigit_of_mem_toDigits hc) _ c hc
    · exact hmark c (by grind)
    · exact numeralChar_of_mem_place _ (fun c hc => isDigit_of_mem_toDigits hc) _ c hc

end ItemRecommender.Decimal
