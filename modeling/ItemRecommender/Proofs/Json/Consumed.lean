import Mathlib
import ItemRecommender.Json

/-! # What the readers consume

    Every reader of JSON text leaves a suffix of what it was given (`read_suffix`), one lemma per
    reader, chained by `List.IsSuffix.trans`. An object read from a text ends with its closing
    brace just before what is left (`readValue?_object_closes`), so a text that holds an object
    has a closing brace as its last character before blanks (`parseWith?_object_closes`). -/

namespace ItemRecommender.Json

open ItemRecommender.Text

theorem skipSpace_suffix (s : List Char) : skipSpace s <:+ s := List.dropWhile_suffix _

/-- Relabelling what a reader read keeps the rest of the text it leaves. -/
theorem rest_of_map_eq_some {α β : Type} {o : Option (α × List Char)}
    {f : α × List Char → β × List Char} {y : β} {r : List Char} (h : o.map f = some (y, r))
    (hf : ∀ p, (f p).2 = p.2) : ∃ x, o = some (x, r) := by
  obtain ⟨⟨x, r'⟩, ho, hp⟩ := Option.map_eq_some_iff.1 h
  have hr : r = r' := by simpa [hp] using hf (x, r')
  exact ⟨x, hr ▸ ho⟩

theorem readHex4?_suffix {s r : List Char} {n : Nat} (h : readHex4? s = some (n, r)) : r <:+ s := by
  match s, h with
  | a :: b :: c :: d :: rest, h =>
    simp only [readHex4?, Option.bind_eq_bind, Option.bind_eq_some_iff, Option.pure_def,
      Option.some.injEq, Prod.mk.injEq] at h
    obtain ⟨_, _, _, _, _, _, _, _, -, rfl⟩ := h
    exact (List.suffix_cons _ _).trans ((List.suffix_cons _ _).trans
      ((List.suffix_cons _ _).trans (List.suffix_cons _ _)))

theorem readUnicodeEscape?_suffix {paired : Bool} {s r : List Char} {c : Char}
    (h : readUnicodeEscape? paired s = some (c, r)) : r <:+ s := by
  unfold readUnicodeEscape? at h
  simp only [Option.bind_eq_bind, Option.bind_eq_some_iff] at h
  obtain ⟨⟨hi, r0⟩, h0, h⟩ := h
  have s0 := readHex4?_suffix h0
  -- a lone surrogate, where one is allowed, leaves what follows its escape
  have hlone : (if paired then none else some (ofCodePoint hi, r0)) = some (c, r) → r <:+ s := by
    intro hl
    split at hl
    · cases hl
    · obtain ⟨-, rfl⟩ := Prod.mk.inj (Option.some.inj hl)
      exact s0
  dsimp only at h
  split at h
  · -- a high surrogate, with a low one in a second escape after it or alone
    split at h
    · next r' =>
      obtain ⟨⟨lo, r1⟩, h1, h⟩ := Option.bind_eq_some_iff.1 h
      split at h
      · obtain ⟨-, rfl⟩ := Prod.mk.inj (Option.some.inj h)
        exact (readHex4?_suffix h1).trans
          ((List.suffix_cons _ _).trans ((List.suffix_cons _ _).trans s0))
      · exact hlone h
    · exact hlone h
  · split at h
    · exact hlone h
    · obtain ⟨-, rfl⟩ := Prod.mk.inj (Option.some.inj h)
      exact s0

theorem readString?_suffix (paired : Bool) (fuel : Nat) :
    ∀ {s cs r : List Char}, readString? paired fuel s = some (cs, r) → r <:+ s := by
  induction fuel with
  | zero => intro s cs r h; simp [readString?] at h
  | succ f ih =>
    intro s cs r h
    rcases s with _ | ⟨c, rest⟩
    · simp [readString?] at h
    by_cases hq : c = '"'
    · -- the closing quote
      subst hq
      simp only [readString?, Option.some.injEq, Prod.mk.injEq] at h
      rw [← h.2]
      exact List.suffix_cons _ _
    by_cases hb : c = '\\'
    · subst hb
      rcases rest with _ | ⟨e, rest⟩
      · exact absurd h (by rw [show readString? paired (f + 1) ['\\'] = none from rfl]; simp)
      -- each escape leaves the rest after it, or after the four digits of `\u`, to be read on
      have tail : ∀ {r0 : List Char} {c : Char}, r0 <:+ rest →
          ((readString? paired f r0).bind fun x => pure (c :: x.1, x.2)) = some (cs, r) →
          r <:+ '\\' :: e :: rest := by
        intro r0 c hr0 h
        obtain ⟨⟨cs', r'⟩, h1, h⟩ := Option.bind_eq_some_iff.1 h
        simp only [Option.pure_def, Option.some.injEq, Prod.mk.injEq] at h
        rw [← h.2]
        exact (ih h1).trans (hr0.trans ((List.suffix_cons _ _).trans (List.suffix_cons _ _)))
      by_cases hu : e = 'u'
      · subst hu
        simp only [readString?] at h
        obtain ⟨⟨c, r0⟩, h0, h⟩ := Option.bind_eq_some_iff.1 h
        exact tail (readUnicodeEscape?_suffix h0) h
      by_cases hs : e = '"' ∨ e = '\\' ∨ e = '/' ∨ e = 'b' ∨ e = 'f' ∨ e = 'n' ∨ e = 'r' ∨ e = 't'
      · rcases hs with rfl | rfl | rfl | rfl | rfl | rfl | rfl | rfl <;>
          exact @tail rest _ (List.suffix_refl _) (by simpa [readString?] using h)
      · simp only [not_or] at hs
        obtain ⟨h1, h2, h3, h4, h5, h6, h7, h8⟩ := hs
        rw [readString?.eq_13 paired f e rest h1 h2 h3 h4 h5 h6 h7 h8 hu] at h
        simp at h
    -- a plain character
    have hplain : readString? paired (f + 1) (c :: rest) =
        if c.toNat < 0x20 ∨ c = '\\' then none
        else (readString? paired f rest).map fun x => (c :: x.1, x.2) := by
      rcases rest with _ | ⟨e, rest⟩ <;> simp [readString?, hb]
    rw [hplain] at h
    split_ifs at h
    obtain ⟨cs', h1⟩ := rest_of_map_eq_some h fun _ => rfl
    exact (ih h1).trans (List.suffix_cons _ _)

theorem spanMinus_suffix (s : List Char) : (spanMinus s).2 <:+ s := by
  unfold spanMinus
  split
  · exact List.suffix_cons _ _
  · exact List.suffix_rfl

theorem spanAsciiDigits_suffix (s : List Char) : (spanAsciiDigits s).2 <:+ s :=
  List.dropWhile_suffix _

theorem readWhole?_suffix {s w r : List Char} (h : readWhole? s = some (w, r)) : r <:+ s := by
  unfold readWhole? at h
  split at h
  · simp only [Option.some.injEq, Prod.mk.injEq] at h
    rw [← h.2]
    exact List.suffix_cons _ _
  · next c rest _ =>
    split_ifs at h
    simp only [Option.some.injEq, Prod.mk.injEq] at h
    rw [← h.2]
    exact (spanAsciiDigits_suffix rest).trans (List.suffix_cons _ _)
  · simp at h

theorem readFraction?_suffix {s w r : List Char} (h : readFraction? s = some (w, r)) : r <:+ s := by
  unfold readFraction? at h
  split at h
  · next rest =>
    have hd := spanAsciiDigits_suffix rest
    generalize spanAsciiDigits rest = sp at h hd
    obtain ⟨ds, r'⟩ := sp
    dsimp only at h hd
    split_ifs at h
    simp only [Option.some.injEq, Prod.mk.injEq] at h
    rw [← h.2]
    exact hd.trans (List.suffix_cons _ _)
  · simp only [Option.some.injEq, Prod.mk.injEq] at h
    rw [← h.2]

theorem readExponentPart?_suffix {s w r : List Char} (h : readExponentPart? s = some (w, r)) :
    r <:+ s := by
  unfold readExponentPart? at h
  split at h
  · next e rest =>
    split_ifs at h
    · -- the digits follow an optional sign
      split at h
      next sign r' hsg =>
        have hs : r' <:+ rest := by
          split at hsg
          all_goals obtain ⟨-, rfl⟩ := Prod.mk.inj hsg
          · exact List.suffix_cons _ _
          · exact List.suffix_cons _ _
          · exact List.suffix_rfl
        have hd := spanAsciiDigits_suffix r'
        generalize spanAsciiDigits r' = sp at h hd
        obtain ⟨ds, r''⟩ := sp
        dsimp only at h hd
        split_ifs at h
        simp only [Option.some.injEq, Prod.mk.injEq] at h
        rw [← h.2]
        exact hd.trans (hs.trans (List.suffix_cons _ _))
    · simp only [Option.some.injEq, Prod.mk.injEq] at h
      rw [← h.2]
  · simp only [Option.some.injEq, Prod.mk.injEq] at h
    rw [← h.2]

theorem readNumber?_suffix {nonFinite : Bool} {maxWhole : Option Nat} {s lit r : List Char}
    (h : readNumber? nonFinite maxWhole s = some (lit, r)) : r <:+ s := by
  unfold readNumber? at h
  generalize List.find? _ _ = special at h
  rcases special with _ | w
  · -- sign, whole part, fraction and exponent, each reading on from the rest of the one before
    have hm := spanMinus_suffix s
    generalize spanMinus s = sm at h hm
    obtain ⟨sign, r0⟩ := sm
    dsimp only at h hm
    simp only [Option.bind_eq_bind, Option.bind_eq_some_iff] at h
    obtain ⟨⟨whole, r1⟩, h1, h⟩ := h
    split_ifs at h
    · simp at h
    simp only [Option.pure_def, Option.bind_eq_some_iff, Option.some.injEq, Prod.mk.injEq] at h
    obtain ⟨⟨frac, r2⟩, h2, ⟨exp, r3⟩, h3, -, rfl⟩ := h
    exact (readExponentPart?_suffix h3).trans ((readFraction?_suffix h2).trans
      ((readWhole?_suffix h1).trans hm))
  · -- a non-finite number is its word
    dsimp only at h
    split_ifs at h
    simp only [Option.pure_def, Option.some.injEq, Prod.mk.injEq] at h
    rw [← h.2]
    exact List.drop_suffix _ _

/-- Each reader leaves a suffix of what it was given. -/
theorem read_suffix (v : Variant) (fuel : Nat) : ∀ (room : Nat) (s : List Char),
    (∀ x r, readValue? v room fuel s = some (x, r) → r <:+ s) ∧
    (∀ xs r, readItems? v room fuel s = some (xs, r) → r <:+ s) ∧
    (∀ ms r, readMembers? v room fuel s = some (ms, r) → r <:+ s) := by
  -- the three readers call each other with one unit of fuel less
  induction fuel with
  | zero =>
    intro room s
    refine ⟨?_, ?_, ?_⟩ <;> intro _ _ h <;> simp [readValue?, readItems?, readMembers?] at h
  | succ f ih =>
    intro room s
    refine ⟨?value, ?items, ?members⟩
    case value =>
      intro x r h
      rw [readValue?] at h
      have ht := skipSpace_suffix s
      generalize skipSpace s = t at h ht
      split at h
      · obtain ⟨-, rfl⟩ := Prod.mk.inj (Option.some.inj h)
        exact (List.suffix_append ['n', 'u', 'l', 'l'] _).trans ht
      · obtain ⟨-, rfl⟩ := Prod.mk.inj (Option.some.inj h)
        exact (List.suffix_append ['t', 'r', 'u', 'e'] _).trans ht
      · obtain ⟨-, rfl⟩ := Prod.mk.inj (Option.some.inj h)
        exact (List.suffix_append ['f', 'a', 'l', 's', 'e'] _).trans ht
      · obtain ⟨str, h1⟩ := rest_of_map_eq_some h fun _ => rfl
        exact (readString?_suffix _ _ h1).trans ((List.suffix_cons _ _).trans ht)
      · next r0 =>
        have hu := skipSpace_suffix r0
        generalize skipSpace r0 = u at h hu
        split at h
        · obtain ⟨-, rfl⟩ := Prod.mk.inj (Option.some.inj h)
          exact (List.suffix_cons _ _).trans (hu.trans ((List.suffix_cons _ _).trans ht))
        · obtain ⟨xs, h1⟩ := rest_of_map_eq_some h fun _ => rfl
          exact ((ih room r0).2.1 xs r h1).trans ((List.suffix_cons _ _).trans ht)
      · next r0 =>
        have hu := skipSpace_suffix r0
        generalize skipSpace r0 = u at h hu
        split at h
        · obtain ⟨-, rfl⟩ := Prod.mk.inj (Option.some.inj h)
          exact (List.suffix_cons _ _).trans (hu.trans ((List.suffix_cons _ _).trans ht))
        · obtain ⟨ms, h1⟩ := rest_of_map_eq_some h fun _ => rfl
          exact ((ih room r0).2.2 ms r h1).trans ((List.suffix_cons _ _).trans ht)
      · obtain ⟨lit, h1⟩ := rest_of_map_eq_some h fun _ => rfl
        exact (readNumber?_suffix h1).trans ht
    case items =>
      intro xs r h
      rw [readItems?] at h
      simp only [Option.bind_eq_bind, Option.bind_eq_some_iff] at h
      obtain ⟨inner, -, ⟨x, r1⟩, h1, h⟩ := h
      have hr1 := (ih inner s).1 x r1 h1
      have hu := skipSpace_suffix r1
      generalize skipSpace r1 = u at h hu
      split at h
      · obtain ⟨xs', h2⟩ := rest_of_map_eq_some h fun _ => rfl
        exact ((ih room _).2.1 xs' r h2).trans ((List.suffix_cons _ _).trans (hu.trans hr1))
      · obtain ⟨-, rfl⟩ := Prod.mk.inj (Option.some.inj h)
        exact (List.suffix_cons _ _).trans (hu.trans hr1)
      · simp at h
    case members =>
      intro ms r h
      rw [readMembers?] at h
      have ht := skipSpace_suffix s
      generalize skipSpace s = t at h ht
      split at h
      · next r0 =>
        simp only [Option.bind_eq_bind, Option.bind_eq_some_iff] at h
        obtain ⟨⟨key, r1⟩, h1, h⟩ := h
        have hr1 := (readString?_suffix _ _ h1).trans ((List.suffix_cons _ _).trans ht)
        have hu := skipSpace_suffix r1
        generalize skipSpace r1 = u at h hu
        split at h
        · next r2 =>
          simp only [Option.bind_eq_some_iff] at h
          obtain ⟨inner, -, ⟨x, r3⟩, h3, h⟩ := h
          have hr3 := ((ih inner r2).1 x r3 h3).trans ((List.suffix_cons _ _).trans (hu.trans hr1))
          have hw := skipSpace_suffix r3
          generalize skipSpace r3 = w at h hw
          split at h
          · obtain ⟨ms', h4⟩ := rest_of_map_eq_some h fun _ => rfl
            exact ((ih room _).2.2 ms' r h4).trans ((List.suffix_cons _ _).trans (hw.trans hr3))
          · obtain ⟨-, rfl⟩ := Prod.mk.inj (Option.some.inj h)
            exact (List.suffix_cons _ _).trans (hw.trans hr3)
          · simp at h
        · simp at h
      · simp at h

theorem readValue?_suffix {v : Variant} {room fuel : Nat} {s r : List Char} {x : Json}
    (h : readValue? v room fuel s = some (x, r)) : r <:+ s :=
  (read_suffix v fuel room s).1 x r h

/-- The members of an object end with its closing brace. -/
theorem readMembers?_closes (v : Variant) (fuel : Nat) : ∀ {room : Nat} {s r : List Char}
    {ms : List (String × Json)}, readMembers? v room fuel s = some (ms, r) → '}' :: r <:+ s := by
  induction fuel with
  | zero => intro room s r ms h; simp [readMembers?] at h
  | succ f ih =>
    intro room s r ms h
    rw [readMembers?] at h
    have ht := skipSpace_suffix s
    generalize skipSpace s = t at h ht
    split at h
    · simp only [Option.bind_eq_bind, Option.bind_eq_some_iff] at h
      obtain ⟨⟨key, r1⟩, h1, h⟩ := h
      have hr1 := (readString?_suffix _ _ h1).trans ((List.suffix_cons _ _).trans ht)
      have hu := skipSpace_suffix r1
      generalize skipSpace r1 = u at h hu
      split at h
      · simp only [Option.bind_eq_some_iff] at h
        obtain ⟨inner, -, ⟨x, r3⟩, h3, h⟩ := h
        have hr3 := (readValue?_suffix h3).trans ((List.suffix_cons _ _).trans (hu.trans hr1))
        have hw := skipSpace_suffix r3
        generalize skipSpace r3 = w at h hw
        split at h
        · -- more members follow: the brace closes the last of them
          obtain ⟨⟨ms', r'⟩, h4, h⟩ := Option.map_eq_some_iff.1 h
          simp only [Prod.mk.injEq] at h
          rw [← h.2]
          exact (ih h4).trans ((List.suffix_cons _ _).trans (hw.trans hr3))
        · simp only [Option.some.injEq, Prod.mk.injEq] at h
          obtain ⟨-, rfl⟩ := h
          exact hw.trans hr3
        · simp at h
      · simp at h
    · simp at h

/-- An object read from a text ends with its closing brace. -/
theorem readValue?_object_closes {v : Variant} {room fuel : Nat} {s r : List Char}
    {ms : List (String × Json)} (h : readValue? v room fuel s = some (.object ms, r)) :
    '}' :: r <:+ s := by
  cases fuel with
  | zero => simp [readValue?] at h
  | succ f =>
    rw [readValue?] at h
    have ht := skipSpace_suffix s
    generalize skipSpace s = t at h ht
    split at h
    · simp at h
    · simp at h
    · simp at h
    · simp at h
    · split at h <;> simp at h
    · next r0 =>
      have hu := skipSpace_suffix r0
      generalize skipSpace r0 = u at h hu
      split at h
      · simp only [Option.some.injEq, Prod.mk.injEq] at h
        obtain ⟨-, rfl⟩ := h
        exact hu.trans ((List.suffix_cons _ _).trans ht)
      · obtain ⟨⟨ms', r'⟩, h1, h⟩ := Option.map_eq_some_iff.1 h
        simp only [Prod.mk.injEq] at h
        rw [← h.2]
        exact (readMembers?_closes v f h1).trans ((List.suffix_cons _ _).trans ht)
    · simp at h

/-- A text that holds an object has a closing brace as its last character before blanks. -/
theorem parseWith?_object_closes {v : Variant} {text : String} {ms : List (String × Json)}
    (h : parseWith? v text = some (.object ms)) :
    (text.toList.reverse.dropWhile isSpace).head? = some '}' := by
  unfold parseWith? at h
  dsimp only at h
  split at h
  · next x rest hread =>
    split_ifs at h with hblank
    cases h
    obtain ⟨pre, hpre⟩ := readValue?_object_closes hread
    -- the rest after the brace is all blanks, so reversing puts the brace first
    have hall : ∀ c ∈ rest, isSpace c = true := by
      intro c hc
      by_contra hnot
      have := List.dropWhile_eq_nil_iff.1 (List.isEmpty_iff.1 hblank) c hc
      exact hnot this
    rw [← hpre, List.reverse_append, List.reverse_cons, List.append_assoc,
      List.dropWhile_append_of_pos (fun c hc => hall c (List.mem_reverse.1 hc))]
    simp [isSpace]
  · simp at h

end ItemRecommender.Json
