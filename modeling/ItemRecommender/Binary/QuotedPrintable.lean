import ItemRecommender.Binary.Hex
/-!
# Quoted-printable

Quoted-printable text keeps printable ASCII as it is and writes other bytes as `=` and two
uppercase hexadecimal digits (`quotedEncode`). A byte is written so when it is above `~`, is
`=` itself, is `_` in a header, is a `.` alone at the start of a line, is a line end of binary
data, is a blank at the very end, or is any other control character (blanks too, when tabs
are quoted). A line longer than 76 characters is broken by a soft line break, `=` and a line
end; a line end of text is kept, and a blank just before it is quoted. Line ends are written
as the text's first one is: with a carriage return when the first newline follows one.

Reading (`quotedDecode`) turns `=` and two hexadecimal digits back into the byte, drops a soft
line break (through the next newline), reads `==` as `=`, and keeps any other `=`; in a header
an underscore is a space.
-/

namespace ItemRecommender.Binary

/-- How quoted-printable text is written: whether blanks are quoted too, whether the data is
text (so that its line ends are kept), and whether it is a header (spaces as underscores). -/
structure QuoteStyle where
  quoteTabs : Bool := false
  isText : Bool := true
  header : Bool := false

/-- The longest line, soft line break included. -/
def quotedLineLimit : Nat := 76

/-- Whether a byte at a column is written quoted; `next` is the byte after it. -/
def QuoteStyle.quotes (st : QuoteStyle) (column : Nat) (b : UInt8) (next : Option UInt8) :
    Bool :=
  126 < b || b == 61 || (st.header && b == 95) ||
    (b == 46 && column == 0 &&
      (next.isNone || next == some 10 || next == some 13 || next == some 0)) ||
    (!st.isText && (b == 13 || b == 10)) ||
    ((b == 9 || b == 32) && next.isNone) ||
    (b < 33 && b != 13 && b != 10 && (st.quoteTabs || (b != 9 && b != 32)))

/-- A line end: a newline, after a carriage return when `crlf`. -/
def lineEnd (crlf : Bool) : List UInt8 := if crlf then [13, 10] else [10]

/-- The quoted form of a byte: `=` and its two uppercase digits. -/
def quotedByte (b : UInt8) : List UInt8 := 61 :: hexPair true b

/-- Writes the rest of the bytes at a column after `out`. -/
def quotedFrom (st : QuoteStyle) (crlf : Bool) (out : Array UInt8) (column : Nat) :
    List UInt8 → Array UInt8
  | [] => out
  | b :: rest =>
    let next := rest.head?
    if st.quotes column b next then
      let (out, column) :=
        if quotedLineLimit ≤ column + 3 then (out.push 61 ++ lineEnd crlf, 0) else (out, column)
      quotedFrom st crlf (out ++ quotedByte b) (column + 3) rest
    else if st.isText && (b == 10 || (b == 13 && next == some 10)) then
      let out := match out.back? with
        | some c => if c == 32 || c == 9 then out.pop ++ quotedByte c else out
        | none => out
      quotedFrom st crlf (out ++ lineEnd crlf) 0 (if b == 13 then rest.drop 1 else rest)
    else
      let (out, column) :=
        if next.isSome && next != some 10 && quotedLineLimit ≤ column + 1 then
          (out.push 61 ++ lineEnd crlf, 0)
        else (out, column)
      quotedFrom st crlf (out.push (if st.header && b == 32 then 95 else b)) (column + 1) rest
termination_by bytes => bytes.length
decreasing_by
  all_goals simp only [List.length_cons]
  all_goals first
    | omega
    | split
      · simp only [List.length_drop]; omega
      · omega

/-- Whether the first newline of bytes follows a carriage return. -/
def endsWithReturns (bytes : List UInt8) : Bool :=
  match bytes.findIdx? (· == 10) with
  | some (i + 1) => bytes[i]? == some 13
  | _ => false

/-- The quoted-printable text of bytes. -/
def quotedEncode (st : QuoteStyle) (bytes : List UInt8) : List UInt8 :=
  (quotedFrom st (endsWithReturns bytes) #[] 0 bytes).toList

/-- The bytes of quoted-printable text; `header` reads underscores as spaces. -/
def quotedDecode (header : Bool) : List UInt8 → List UInt8
  | [] => []
  | [61] => []
  | 61 :: c :: after =>
    if c == 10 || c == 13 then quotedDecode header (((c :: after).dropWhile (· != 10)).drop 1)
    else if c == 61 then 61 :: quotedDecode header after
    else
      match _h : after, hexValue? c with
      | d :: more, some x =>
        match hexValue? d with
        | some y => (x * 16 + y).toUInt8 :: quotedDecode header more
        | none => 61 :: quotedDecode header (c :: after)
      | _, _ => 61 :: quotedDecode header (c :: after)
  | b :: rest => (if header && b == 95 then 32 else b) :: quotedDecode header rest
termination_by bytes => bytes.length
decreasing_by
  all_goals (try subst _h); simp only [List.length_cons]
  all_goals first
    | omega
    | have := (List.dropWhile_suffix (· != (10 : UInt8)) (l := c :: after)).length_le
      simp only [List.length_drop, List.length_cons] at this ⊢
      omega

end ItemRecommender.Binary
