import Mathlib
import ItemRecommender.Json

/-! # Reading back the pretty form

    The pretty printer writes a string member by member, each character escaped or as it is
    (`escaped false`); the reader takes each escape back (`readString?_escaped`), so a quoted
    string reads back as itself whatever follows it (`readValue?_string`). An object of string
    members, each on a line of its own, reads back member by member (`readMembers?_pretty`),
    and so does the text of the state file: one member holding such an object
    (`parseWith?_pretty`). Every lemma is stated with the rest of the text free, and with any
    fuel above what the text needs. -/

namespace ItemRecommender.Json

open ItemRecommender.Text

/-- A hexadecimal digit reads back as its value. -/
theorem hexValue?_digitChar {n : Nat} (h : n < 16) : hexValue? (Nat.digitChar n) = some n := by
  have key : ∀ n < 16, hexValue? (Nat.digitChar n) = some n := by decide
  exact key n h

/-- A control character, escaped as `\u00XX`, reads back as itself. -/
theorem readUnicodeEscape?_control (paired : Bool) (c : Char) (h : c.toNat < 0x20)
    (rest : List Char) :
    readUnicodeEscape? paired (('0' :: '0' :: hexDigits 2 c.toNat) ++ rest) = some (c, rest) := by
  have hd : hexDigits 2 c.toNat = [Nat.digitChar (c.toNat / 16 % 16), Nat.digitChar (c.toNat % 16)] := by
    simp [hexDigits, List.range_succ]
  rw [hd]
  simp only [List.cons_append, List.nil_append, readUnicodeEscape?, readHex4?]
  rw [hexValue?_digitChar (by omega), hexValue?_digitChar (by omega)]
  have h0 : hexValue? '0' = some 0 := rfl
  have hv : ((0 * 16 + 0) * 16 + c.toNat / 16 % 16) * 16 + c.toNat % 16 = c.toNat := by omega
  simp only [h0, Option.pure_def, Option.bind_eq_bind, Option.bind_some, hv]
  rw [if_neg (by omega), if_neg (by omega), Char.ofNat_toNat]

theorem bind_some_eq_map {α β : Type} (o : Option α) (f : α → β) :
    (o.bind fun a => some (f a)) = o.map f := by
  cases o <;> rfl

/-- One character as a string literal writes it reads back, whatever follows. -/
theorem readString?_escaped (paired : Bool) (fuel : Nat) (c : Char) (rest : List Char) :
    readString? paired (fuel + 1) (escaped false c ++ rest) =
      (readString? paired fuel rest).map fun (s, r) => (c :: s, r) := by
  unfold escaped
  split
  next hq => subst hq; simp [readString?, bind_some_eq_map]
  split
  next hb => subst hb; simp [readString?, bind_some_eq_map]
  split
  next hn => subst hn; simp [readString?, bind_some_eq_map]
  split
  next hr => subst hr; simp [readString?, bind_some_eq_map]
  split
  next ht => subst ht; simp [readString?, bind_some_eq_map]
  split
  next hbs => subst hbs; simp [readString?, bind_some_eq_map]
  split
  next hff => subst hff; simp [readString?, bind_some_eq_map]
  split
  next hlow =>
    simp only [List.cons_append, List.nil_append, readString?]
    rw [show '0' :: '0' :: (hexDigits 2 c.toNat ++ rest) = ('0' :: '0' :: hexDigits 2 c.toNat) ++ rest
      by simp, readUnicodeEscape?_control paired c hlow rest]
    simp [bind_some_eq_map]
  split
  next hs => simp at hs
  simp only [List.cons_append, List.nil_append]
  rw [readString?.eq_def]
  split <;> simp_all

theorem length_le_flatMap_escaped (s : List Char) : s.length ≤ (s.flatMap (escaped false)).length := by
  induction s with
  | nil => simp
  | cons c s ih =>
    have hc : 1 ≤ (escaped false c).length := by
      unfold escaped
      repeat' split
      all_goals simp
    simp only [List.flatMap_cons, List.length_append, List.length_cons]
    omega

/-- A string literal as `quoteWith false` writes it reads back, with enough fuel. -/
theorem readString?_quoted (paired : Bool) (s rest : List Char) (fuel : Nat) (h : s.length < fuel) :
    readString? paired fuel (s.flatMap (escaped false) ++ '"' :: rest) = some (s, rest) := by
  induction s generalizing fuel with
  | nil =>
    obtain ⟨f, rfl⟩ : ∃ f, fuel = f + 1 := ⟨fuel - 1, by simp at h; omega⟩
    simp [readString?]
  | cons c s ih =>
    obtain ⟨f, rfl⟩ : ∃ f, fuel = f + 1 := ⟨fuel - 1, by simp at h; omega⟩
    rw [List.flatMap_cons, List.append_assoc, readString?_escaped,
      ih f (by simp at h; omega)]
    rfl

@[simp] theorem skipSpace_cons_space {c : Char} (hc : isSpace c = true) (l : List Char) :
    skipSpace (c :: l) = skipSpace l := by
  simp [skipSpace, List.dropWhile_cons_of_pos hc]

@[simp] theorem skipSpace_cons_of_not {c : Char} (hc : isSpace c = false) (l : List Char) :
    skipSpace (c :: l) = c :: l := by
  simp [skipSpace, List.dropWhile_cons_of_neg (by simpa using hc)]

@[simp] theorem skipSpace_replicate (n : Nat) (l : List Char) :
    skipSpace (List.replicate n ' ' ++ l) = skipSpace l := by
  induction n with
  | zero => rfl
  | succ n ih => rw [List.replicate_succ, List.cons_append, skipSpace_cons_space (by decide), ih]

theorem toList_quoteWith (k : String) :
    (quoteWith false k).toList = '"' :: k.toList.flatMap (escaped false) ++ ['"'] := by
  simp [quoteWith]

@[simp] theorem toList_indent (d : Nat) : (indent d).toList = List.replicate (2 * d) ' ' := by
  simp [indent]

/-- A string value as the pretty writer writes it reads back. -/
theorem readValue?_string (v : Variant) (room fuel : Nat) (k : String) (rest : List Char) :
    readValue? v room (fuel + 1) ((quoteWith false k).toList ++ rest) = some (.string k, rest) := by
  simp only [toList_quoteWith, List.cons_append, List.append_assoc, List.nil_append]
  have hlen := length_le_flatMap_escaped k.toList
  simp only [readValue?, skipSpace_cons_of_not (show isSpace '"' = false by decide)]
  rw [readString?_quoted _ _ _ _ (by simp only [List.length_append, List.length_cons]; omega)]
  simp

/-- A value reader skips a blank before the value. -/
theorem readValue?_blank (v : Variant) (room fuel : Nat) {c : Char} (hc : isSpace c = true)
    (l : List Char) : readValue? v room (fuel + 1) (c :: l) = readValue? v room (fuel + 1) l := by
  simp only [readValue?, skipSpace_cons_space hc]

/-- A member reader skips a blank before the member. -/
theorem readMembers?_blank (v : Variant) (room fuel : Nat) {c : Char} (hc : isSpace c = true)
    (l : List Char) : readMembers? v room (fuel + 1) (c :: l) = readMembers? v room (fuel + 1) l := by
  simp only [readMembers?, skipSpace_cons_space hc]

/-- One member as the pretty writer writes it: its key, a colon and a blank, then a value the
value reader reads; what the member reader does next depends on what follows the value. -/
theorem readMembers?_member (v : Variant) (room f d : Nat) (k : String) (x : Json)
    (value after : List Char) (hx : readValue? v room (f + 1) (value ++ after) = some (x, after)) :
    readMembers? v (room + 1) (f + 2)
        ((indent d ++ quoteWith false k ++ ": ").toList ++ (value ++ after)) =
      match skipSpace after with
      | ',' :: r => (readMembers? v (room + 1) (f + 1) r).map fun (ms, r') => ((k, x) :: ms, r')
      | '}' :: r => some ([(k, x)], r)
      | _ => none := by
  have hklen := length_le_flatMap_escaped k.toList
  have hcolon : (": " : String).toList = [':', ' '] := rfl
  simp only [String.toList_append, toList_indent, toList_quoteWith, hcolon, List.append_assoc,
    List.cons_append, List.nil_append]
  rw [readMembers?]
  simp only [skipSpace_replicate, skipSpace_cons_of_not (show isSpace '"' = false by decide)]
  rw [readString?_quoted _ _ _ _ (by simp only [List.length_append, List.length_cons]; omega)]
  simp only [Option.bind_eq_bind, Option.bind_some, skipSpace_cons_of_not (show isSpace ':' = false by decide),
    deeper?, readValue?_blank v room f (show isSpace ' ' = true by decide), String.ofList_toList]
  -- the two matches on what follows the value agree only after unfolding
  rw [hx]
  rfl

theorem skipSpace_blank_append {sp : List Char} (hsp : ∀ c ∈ sp, isSpace c = true) (l : List Char) :
    skipSpace (sp ++ l) = skipSpace l := by
  induction sp with
  | nil => rfl
  | cons c sp ih =>
    rw [List.cons_append, skipSpace_cons_space (hsp c (by simp)),
      ih fun c hc => hsp c (by simp [hc])]

/-- Members with string values, as the pretty writer writes them one per line at some depth,
read back up to the closing brace after the blanks that end the object. -/
theorem readMembers?_pretty (v : Variant) (room fuel d : Nat) (ms : List (String × String))
    (hms : ms ≠ []) (hfuel : ms.length < fuel) (sp rest : List Char)
    (hsp : ∀ c ∈ sp, isSpace c = true) :
    readMembers? v (room + 1) fuel
        ((prettyMembers d (ms.map fun m => (m.1, .string m.2))).toList ++ sp ++ '}' :: rest) =
      some (ms.map fun m => (m.1, .string m.2), rest) := by
  induction ms generalizing fuel with
  | nil => exact absurd rfl hms
  | cons m ms ih =>
    obtain ⟨k, x⟩ := m
    cases ms with
    | nil =>
      -- the last member: the blanks and the closing brace follow its value
      obtain ⟨f, rfl⟩ : ∃ f, fuel = f + 2 := ⟨fuel - 2, by simp at hfuel; omega⟩
      simp only [List.map_cons, List.map_nil, prettyMembers, pretty]
      rw [String.toList_append]
      simp only [List.append_assoc]
      rw [readMembers?_member _ _ _ _ _ _ _ _ (readValue?_string _ _ _ _ _), skipSpace_blank_append hsp,
        skipSpace_cons_of_not (show isSpace '}' = false by decide)]
      rfl
    | cons m' ms =>
      -- a comma and a line break lead to the next member
      obtain ⟨f, rfl⟩ : ∃ f, fuel = f + 2 := ⟨fuel - 2, by simp at hfuel; omega⟩
      have hnext := ih (f + 1) (List.cons_ne_nil _ _) (by simp at hfuel ⊢; omega)
      simp only [List.map_cons] at hnext ⊢
      simp only [prettyMembers, pretty]
      rw [String.toList_append, String.toList_append, String.toList_append]
      simp only [List.append_assoc]
      rw [readMembers?_member _ _ _ _ _ _ _ _ (readValue?_string _ _ _ _ _), show (",\n" : String).toList = [',', '\n'] from rfl, List.cons_append,
        skipSpace_cons_of_not (show isSpace ',' = false by decide)]
      simp only [List.cons_append, List.nil_append]
      rw [readMembers?_blank _ _ _ (show isSpace '\n' = true by decide), ← List.append_assoc, hnext]
      rfl

theorem one_le_length_quoteWith (k : String) : 1 ≤ (quoteWith false k).length := by
  rw [← String.length_toList, toList_quoteWith]
  simp

theorem length_le_prettyMembers (d : Nat) (ms : List (String × String)) :
    ms.length ≤ (prettyMembers d (ms.map fun m => (m.1, .string m.2))).length := by
  induction ms with
  | nil => simp
  | cons m ms ih =>
    have hk := one_le_length_quoteWith m.1
    cases ms with
    | nil =>
      simp only [List.map_cons, List.map_nil, prettyMembers, pretty, String.length_append,
        List.length_cons, List.length_nil]
      omega
    | cons m' ms =>
      simp only [List.map_cons, prettyMembers, pretty, String.length_append] at ih ⊢
      simp only [List.length_cons] at ih ⊢
      omega

/-- The members start with the indent and the opening quote of the first key. -/
theorem toList_prettyMembers_cons (d : Nat) (k : String) (x : Json) (more : List (String × Json)) :
    ∃ tail, (prettyMembers d ((k, x) :: more)).toList = List.replicate (2 * d) ' ' ++ '"' :: tail := by
  cases more with
  | nil => exact ⟨_, by simp [prettyMembers, toList_quoteWith]; rfl⟩
  | cons m more => exact ⟨_, by simp [prettyMembers, toList_quoteWith]; rfl⟩

/-- An object of string members, as the pretty writer writes it, reads back. -/
theorem readValue?_pretty_object (v : Variant) (room fuel d : Nat) (ms : List (String × String))
    (hfuel : ms.length < fuel) (rest : List Char) :
    readValue? v (room + 1) (fuel + 1)
        ((pretty d (.object (ms.map fun m => (m.1, .string m.2)))).toList ++ rest) =
      some (.object (ms.map fun m => (m.1, .string m.2)), rest) := by
  cases ms with
  | nil =>
    simp only [List.map_nil, pretty]
    rw [show ("\x7b\x7d" : String).toList = ['\x7b', '\x7d'] from rfl]
    simp [readValue?, skipSpace_cons_of_not (show isSpace '\x7b' = false by decide),
      skipSpace_cons_of_not (show isSpace '\x7d' = false by decide)]
  | cons m ms =>
    obtain ⟨f, rfl⟩ : ∃ f, fuel = f + 1 := ⟨fuel - 1, by simp at hfuel; omega⟩
    obtain ⟨tail, htail⟩ := toList_prettyMembers_cons (d + 1) m.1 (.string m.2)
      (ms.map fun m => (m.1, .string m.2))
    have hread := readMembers?_pretty v room (f + 1) (d + 1) (m :: ms) (List.cons_ne_nil _ _)
      hfuel ('\n' :: List.replicate (2 * d) ' ') rest (by simp [isSpace])
    simp only [List.map_cons] at hread ⊢
    simp only [pretty, String.toList_append, toList_indent,
      show ("\x7b\n" : String).toList = ['\x7b', '\n'] from rfl,
      show ("\n" : String).toList = ['\n'] from rfl,
      show ("\x7d" : String).toList = ['\x7d'] from rfl, List.append_assoc, List.cons_append,
      List.nil_append] at hread ⊢
    -- the reader sees the first key, not the closing brace, and reads the members
    have hskip : ∀ after : List Char,
        skipSpace ('\n' :: ((prettyMembers (d + 1) ((m.1, .string m.2) ::
          ms.map fun m => (m.1, .string m.2))).toList ++ after)) = '"' :: (tail ++ after) := by
      intro after
      rw [skipSpace_cons_space (by decide), htail, List.append_assoc, skipSpace_replicate,
        List.cons_append, skipSpace_cons_of_not (by decide)]
    rw [readValue?, skipSpace_cons_of_not (show isSpace '\x7b' = false by decide)]
    simp only
    rw [hskip, readMembers?_blank _ _ _ (by decide), hread]
    rfl

theorem pretty_object_cons (d : Nat) (m : String × Json) (ms : List (String × Json)) :
    pretty d (.object (m :: ms)) =
      "\x7b\n" ++ prettyMembers (d + 1) (m :: ms) ++ "\n" ++ indent d ++ "\x7d" := by
  simp [pretty]

theorem prettyMembers_singleton (d : Nat) (k : String) (x : Json) :
    prettyMembers d [(k, x)] = indent d ++ quoteWith false k ++ ": " ++ pretty d x := by
  simp [prettyMembers]

theorem length_le_pretty_object (d : Nat) (ms : List (String × String)) :
    ms.length ≤ (pretty d (.object (ms.map fun m => (m.1, .string m.2)))).length := by
  cases ms with
  | nil => simp
  | cons m ms =>
    have h := length_le_prettyMembers (d + 1) (m :: ms)
    simp only [List.map_cons] at h ⊢
    simp only [pretty, String.length_append]
    omega

/-- An object holding one object of string members, as the pretty writer writes it, reads back
as extended JSON. -/
theorem parseWith?_pretty (key : String) (ms : List (String × String)) :
    parseWith? .extended (pretty 0 (.object [(key, .object (ms.map fun m => (m.1, .string m.2)))])) =
      some (.object [(key, .object (ms.map fun m => (m.1, .string m.2)))]) := by
  -- the text is the one member on a line of its own between the braces
  have htext : (pretty 0 (.object [(key, .object (ms.map fun m => (m.1, .string m.2)))])).toList =
      '\x7b' :: '\n' :: ((indent 1 ++ quoteWith false key ++ ": ").toList ++
        ((pretty 1 (.object (ms.map fun m => (m.1, .string m.2)))).toList ++ ['\n', '\x7d'])) := by
    rw [pretty_object_cons, prettyMembers_singleton]
    simp only [String.toList_append, List.append_assoc]
    rfl
  have hlen := length_le_pretty_object 1 ms
  have hval := readValue?_pretty_object .extended 198 (2 * (pretty 0
    (.object [(key, .object (ms.map fun m => (m.1, .string m.2)))])).toList.length - 1) 1 ms
    (by
      rw [htext]
      simp only [List.length_cons, List.length_append, String.length_toList]
      omega) ['\n', '\x7d']
  have hpos : 1 ≤ (pretty 0
      (.object [(key, .object (ms.map fun m => (m.1, .string m.2)))])).toList.length := by
    rw [htext]; simp
  have hskip : ∀ after : List Char, skipSpace ('\n' :: ((indent 1 ++ quoteWith false key ++ ": ").toList ++
      after)) = '"' :: ((key.toList.flatMap (escaped false) ++ ['"']) ++ ([':', ' '] ++ after)) := by
    intro after
    rw [skipSpace_cons_space (by decide)]
    simp only [String.toList_append, toList_indent, toList_quoteWith, List.append_assoc,
      skipSpace_replicate, List.cons_append, skipSpace_cons_of_not (show isSpace '"' = false by decide)]
    rfl
  unfold parseWith?
  dsimp only
  generalize (pretty 0 (.object [(key, .object (ms.map fun m => (m.1, .string m.2)))])).toList.length = L
    at hval hpos
  obtain ⟨f, rfl⟩ : ∃ f, L = f + 1 := ⟨L - 1, by omega⟩
  rw [htext, show 2 * (f + 1) + 2 = (2 * (f + 1) - 1 + 2) + 1 by omega,
    show Variant.extended.maxDepth.getD (f + 1) = 199 + 1 from rfl, readValue?,
    skipSpace_cons_of_not (show isSpace '\x7b' = false by decide)]
  simp only
  rw [hskip, show 2 * (f + 1) - 1 + 2 = 2 * (f + 1) + 1 by omega,
    readMembers?_blank _ _ _ (by decide), show 2 * (f + 1) + 1 = (2 * (f + 1) - 1) + 2 by omega,
    readMembers?_member _ _ _ _ _ _ _ _ hval]
  rfl

end ItemRecommender.Json
