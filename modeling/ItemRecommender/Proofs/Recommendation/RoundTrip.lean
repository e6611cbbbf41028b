import Mathlib
import ItemRecommender.Recommendation.Store
import ItemRecommender.Proofs.Decimal.Written
import ItemRecommender.Proofs.Batch.Collect
import ItemRecommender.Proofs.Ledger
import ItemRecommender.Proofs.Text.Utf8
import ItemRecommender.Proofs.Workspace.Places

/-!
# The recommendation file reads back what was written

A line of the recommendation file is a user id, a tab and a bracketed, comma-separated list of
`item:score` pairs; the file is those lines, each ended by a line feed. Reading splits the
file into lines (carriage returns unified, blank lines skipped), cuts each line at the tab,
the commas and the colons, and gathers the users into a ledger it lists by ascending user.

The argument rests on one fact about the characters written: an id or a score is rendered
only with numeral characters (`numeralChar`), none of which is a separator, a bracket or a
line break. So cutting at a separator gives back exactly the pieces that were joined
(`cutAt_intercalate`), the file splits into exactly the lines written (`fileLines_flatten`),
and each piece reads back as the id or score it was rendered from. `parseLine_eq` reads back
one line, `readRecommendationText_recommendationText` the whole text, and
`recommendationText_round_trip` a file written whole to the workspace. Ids are read back up
to `maxIntDigits` digits; a score is taken to read back from its rendering, the shortest digits that
name the double.
-/

namespace ItemRecommender

open Decimal Text

/-! ## Cutting at separators -/

theorem cutWhere_of_forall {p : Char → Bool} {s : List Char} (h : ∀ c ∈ s, p c = false) :
    cutWhere p s = [s] := by
  induction s with
  | nil => rfl
  | cons c s ih =>
    rw [cutWhere, if_neg (by simp [h c List.mem_cons_self]),
      ih fun d hd => h d (List.mem_cons_of_mem c hd)]

theorem cutWhere_append_cons {p : Char → Bool} {s : List Char} (h : ∀ c ∈ s, p c = false)
    {sep : Char} (hsep : p sep) (rest : List Char) :
    cutWhere p (s ++ sep :: rest) = s :: cutWhere p rest := by
  induction s with
  | nil => simp [cutWhere, hsep]
  | cons c s ih =>
    rw [List.cons_append, cutWhere, if_neg (by simp [h c List.mem_cons_self]),
      ih fun d hd => h d (List.mem_cons_of_mem c hd)]

/-- Cutting joined pieces at their separator gives them back. -/
theorem cutAt_intercalate (sep : Char) {pieces : List (List Char)} (hne : pieces ≠ [])
    (h : ∀ s ∈ pieces, sep ∉ s) : cutAt sep ([sep].intercalate pieces) = pieces := by
  induction pieces with
  | nil => exact absurd rfl hne
  | cons s rest ih =>
    have hs : ∀ c ∈ s, decide (c = sep) = false := by
      intro c hc
      simp only [decide_eq_false_iff_not]
      rintro rfl
      exact h s List.mem_cons_self hc
    cases rest with
    | nil => rw [List.intercalate_singleton, cutAt, cutWhere_of_forall hs]
    | cons t rest =>
      rw [List.intercalate_cons_cons, List.append_assoc, List.singleton_append, cutAt,
        cutWhere_append_cons hs (by simp)]
      exact congrArg (s :: ·) (ih (List.cons_ne_nil _ _) fun u hu => h u (List.mem_cons_of_mem s hu))

theorem mem_intercalate_singleton {sep c : Char} {L : List (List Char)}
    (h : c ∈ [sep].intercalate L) : c = sep ∨ ∃ l ∈ L, c ∈ l := by
  induction L with
  | nil => simp at h
  | cons l rest ih =>
    cases rest with
    | nil => exact Or.inr ⟨l, List.mem_cons_self, by simpa using h⟩
    | cons t rest =>
      rw [List.intercalate_cons_cons] at h
      simp only [List.mem_append, List.mem_singleton] at h
      rcases h with (h | h) | h
      · exact Or.inr ⟨l, List.mem_cons_self, h⟩
      · exact Or.inl h
      · rcases ih h with h | ⟨l', hl', h⟩
        · exact Or.inl h
        · exact Or.inr ⟨l', List.mem_cons_of_mem l hl', h⟩

/-! ## One line -/

/-- The characters of one `item:score` pair of a line. -/
def pairChars (r : Recommendation Float) : List Char :=
  (toString r.item).toList ++ ':' :: (Layout.score.render r.score).toList

/-- A line: the user, a tab and the pairs in brackets. -/
theorem toList_formatLine (u : Int) (items : List (Recommendation Float)) :
    (formatLine u items).toList =
      (toString u).toList ++ '\t' :: '[' :: ([','].intercalate (items.map pairChars) ++ [']']) := by
  simp [formatLine, String.toList_intercalate, Function.comp_def, toString]
  rfl

theorem numeralChar_of_mem_pairChars {r : Recommendation Float} {c : Char} (h : c ∈ pairChars r) :
    c = ':' ∨ numeralChar c := by
  simp only [pairChars, List.mem_append, List.mem_cons] at h
  rcases h with h | rfl | h
  · exact Or.inr (numeralChar_of_mem_toString_int _ c h)
  · exact Or.inl rfl
  · exact Or.inr (numeralChar_of_mem_render _ c h)

/-- The body of a line holds commas, colons and numerals only. -/
theorem mem_lineBody {items : List (Recommendation Float)} {c : Char}
    (h : c ∈ [','].intercalate (items.map pairChars)) : c = ',' ∨ c = ':' ∨ numeralChar c := by
  rcases mem_intercalate_singleton h with h | ⟨l, hl, h⟩
  · exact Or.inl h
  · obtain ⟨r, -, rfl⟩ := List.mem_map.1 hl
    exact Or.inr (numeralChar_of_mem_pairChars h)

theorem newline_not_mem_lineBody (items : List (Recommendation Float)) :
    '\n' ∉ [','].intercalate (items.map pairChars) := by
  intro h
  rcases mem_lineBody h with h | h | h
  · cases h
  · cases h
  · exact (ne_separator_of_numeralChar h).2.2.2.1 rfl

/-- A pair reads back when its id fits and its score reads back. -/
theorem readPair_pairChars {r : Recommendation Float}
    (hid : decimalLength r.item.natAbs ≤ maxIntDigits)
    (hscore : readFloatLiteral? (Layout.score.render r.score).toList = some r.score) :
    readPair (pairChars r) = .ok r := by
  have hid' : ∀ c ∈ (toString r.item).toList, decide (c ≠ ':') = true := by
    intro c hc
    simpa using (ne_separator_of_numeralChar (numeralChar_of_mem_toString_int _ c hc)).2.1
  have htake : (pairChars r).takeWhile (· ≠ ':') = (toString r.item).toList := by
    rw [pairChars, List.takeWhile_append_of_pos hid']
    simp
  have hdrop : ((pairChars r).dropWhile (· ≠ ':')).drop 1 = (Layout.score.render r.score).toList := by
    rw [pairChars, List.dropWhile_append_of_pos hid']
    simp
  simp only [readPair, htake, hdrop, readInt_toString _ hid, hscore]
  rfl

theorem decimalValue?_of_isDigit {c : Char} (h : c.isDigit) : decimalValue? c = some (c.toNat - 48) := by
  have := toNat_of_isDigit h
  rw [decimalValue?, if_pos (by omega), if_pos ⟨by omega, by omega⟩]

/-- A written user id reads back as its sign and digits. -/
theorem readLineUser?_toString (u : Int) {rest : List Char}
    (hrest : ∀ c ∈ rest.head?, decimalValue? c = none) :
    readLineUser? ((toString u).toList ++ rest) =
      some ((decide (u < 0), (Nat.toDigits 10 u.natAbs).map fun c => c.toNat - 48), rest) := by
  obtain ⟨d, D, hD⟩ := List.exists_cons_of_ne_nil (Nat.toDigits_ne_nil (n := u.natAbs) (b := 10))
  have hdigits : ∀ c ∈ d :: D, c.isDigit := fun c hc => isDigit_of_mem_toDigits (hD ▸ hc)
  have htake : (d :: (D ++ rest)).takeWhile (fun c => (decimalValue? c).isSome) = d :: D := by
    rw [← List.cons_append, List.takeWhile_append_of_pos (fun c hc => by simp [decimalValue?_of_isDigit (hdigits c hc)])]
    cases rest with
    | nil => simp
    | cons e rest => simp [hrest e rfl]
  have hvalues : (d :: D).map (fun c => (decimalValue? c).getD 0) = (d :: D).map fun c => c.toNat - 48 :=
    List.map_congr_left fun c hc => by simp [decimalValue?_of_isDigit (hdigits c hc)]
  have hd : decimalValue? d = some (d.toNat - 48) := decimalValue?_of_isDigit (hdigits d List.mem_cons_self)
  rw [toList_toString_int, hD]
  by_cases hu : u < 0
  · simp [hu, readLineUser?, htake, hvalues]
  · have hd : d ≠ '-' := by
      rintro rfl
      cases hdigits '-' List.mem_cons_self
    simp [hu, readLineUser?, hd, htake, hvalues]

/-- The sign and digits of an id in range give it back. -/
theorem signedValue_toDigits (u : Int) (h : decimalLength u.natAbs ≤ maxIntDigits) :
    signedValue (decide (u < 0)) ((Nat.toDigits 10 u.natAbs).map fun c => c.toNat - 48) =
      .ok u := by
  rw [signedValue, if_neg (by simpa [decimalLength] using h), digitsValue_toDigits]
  exact congrArg Except.ok (signed_natAbs u)

theorem readLineBody?_append {body : List Char} (h : '\n' ∉ body) :
    readLineBody? ('\t' :: '[' :: (body ++ [']'])) = some body := by
  simp [readLineBody?, h]

theorem intercalate_ne_nil {sep x : List Char} {xs : List (List Char)} (hx : x ≠ []) :
    sep.intercalate (x :: xs) ≠ [] := by
  cases xs with
  | nil => simpa using hx
  | cons y ys => simp [List.intercalate_cons_cons, hx]

/-- Pairs that each read back read back together. -/
theorem mapM_readPair {items : List (Recommendation Float)}
    (h : ∀ r ∈ items, readPair (pairChars r) = .ok r) : (items.map pairChars).mapM readPair = .ok items := by
  induction items with
  | nil => rfl
  | cons r rs ih =>
    rw [List.map_cons, List.mapM_cons, h r List.mem_cons_self,
      ih fun r' hr' => h r' (List.mem_cons_of_mem r hr')]
    rfl

/-- A line that is a written line, up to line feeds at its end, reads back as the user and items
it was written from. -/
theorem parseLine_eq (line : String) {u : Int} {items : List (Recommendation Float)}
    (hline : (line.toList.reverse.dropWhile (· = '\n')).reverse = (formatLine u items).toList)
    (huser : decimalLength u.natAbs ≤ maxIntDigits)
    (hitems : ∀ r ∈ items, decimalLength r.item.natAbs ≤ maxIntDigits ∧
      readFloatLiteral? (Layout.score.render r.score).toList = some r.score) :
    parseLine line = .ok (u, items) := by
  rw [toList_formatLine] at hline
  have hbody := readLineBody?_append (newline_not_mem_lineBody items)
  unfold parseLine
  simp only [hline, @readLineUser?_toString u ('\t' :: _) (by simp [decimalValue?]), hbody,
    signedValue_toDigits u huser]
  cases items with
  | nil => rfl
  | cons r rs =>
    have hne : ([','].intercalate ((r :: rs).map pairChars)).isEmpty = false :=
      List.isEmpty_eq_false_iff.2 (intercalate_ne_nil (by simp [pairChars]))
    have hcut : cutAt ',' ([','].intercalate ((r :: rs).map pairChars)) = (r :: rs).map pairChars := by
      refine cutAt_intercalate ',' (by simp) fun s hs h => ?_
      obtain ⟨r', -, rfl⟩ := List.mem_map.1 hs
      rcases numeralChar_of_mem_pairChars h with h | h
      · cases h
      · exact (ne_separator_of_numeralChar h).1 rfl
    rw [hne, hcut, mapM_readPair fun r hr => readPair_pairChars (hitems r hr).1 (hitems r hr).2]
    rfl

/-! ## The file -/

theorem getLast?_formatLine (u : Int) (items : List (Recommendation Float)) :
    (formatLine u items).toList.getLast? = some ']' := by
  rw [toList_formatLine, ← List.cons_append, ← List.cons_append, ← List.append_assoc,
    List.getLast?_concat]

/-- Dropping the line feeds at the end of a line that ends in a bracket, after one more line
feed, gives the line back. -/
theorem dropNewlines_of_getLast? {s : List Char} (h : s.getLast? = some ']') (k : Nat) :
    ((s ++ List.replicate k '\n').reverse.dropWhile (· = '\n')).reverse = s := by
  obtain ⟨t, rfl⟩ : ∃ t, s = t ++ [']'] := ⟨s.dropLast, (List.dropLast_append_getLast? _ h).symm⟩
  rw [List.reverse_append, List.dropWhile_append_of_pos (by simp)]
  simp

theorem unifyNewlines_of_not_mem {s : List Char} (h : '\r' ∉ s) : unifyNewlines s = s := by
  fun_induction unifyNewlines s <;> simp_all

theorem linesKeepingFeedAfter_append (current l rest : List Char) (h : '\n' ∉ l) :
    linesKeepingFeedAfter current (l ++ '\n' :: rest) =
      (current.reverse ++ l ++ ['\n']) :: linesKeepingFeedAfter [] rest := by
  induction l generalizing current with
  | nil => simp [linesKeepingFeedAfter]
  | cons c l ih =>
    have hc : c ≠ '\n' := fun hc => h (hc ▸ List.mem_cons_self)
    rw [List.cons_append, linesKeepingFeedAfter, ih (c :: current) (fun hl => h (List.mem_cons_of_mem c hl))]
    · simp
    · exact hc

/-- **The lines of a file of lines ended by line feeds** are those lines, when none holds a line
feed or a carriage return. -/
theorem fileLines_flatten {ls : List (List Char)} (h : ∀ l ∈ ls, '\n' ∉ l ∧ '\r' ∉ l) :
    fileLines (ls.map (· ++ ['\n'])).flatten = ls.map (· ++ ['\n']) := by
  rw [fileLines, unifyNewlines_of_not_mem (by simp; grind)]
  induction ls with
  | nil => rfl
  | cons l ls ih =>
    rw [List.map_cons, List.flatten_cons, List.append_assoc, List.singleton_append,
      linesKeepingFeedAfter_append _ _ _ (h l List.mem_cons_self).1,
      ih fun l' hl' => h l' (List.mem_cons_of_mem l hl')]
    simp

theorem mem_formatLine {u : Int} {items : List (Recommendation Float)} {c : Char}
    (h : c ∈ (formatLine u items).toList) : c ∈ ['\t', '[', ']', ',', ':'] ∨ numeralChar c := by
  rw [toList_formatLine] at h
  simp only [List.mem_append, List.mem_cons, List.not_mem_nil, or_false] at h
  rcases h with h | rfl | rfl | h | rfl
  · exact Or.inr (numeralChar_of_mem_toString_int u c h)
  · simp
  · simp
  · rcases mem_lineBody h with rfl | rfl | h
    · simp
    · simp
    · exact Or.inr h
  · simp

/-- A line holds no line break. -/
theorem breaks_not_mem_formatLine (u : Int) (items : List (Recommendation Float)) :
    '\n' ∉ (formatLine u items).toList ∧ '\r' ∉ (formatLine u items).toList := by
  constructor <;> intro h <;> rcases mem_formatLine h with h | h
  · simp at h
  · exact (ne_separator_of_numeralChar h).2.2.2.1 rfl
  · simp at h
  · exact (ne_separator_of_numeralChar h).2.2.2.2 rfl

theorem trimBlank_ne_nil {s : List Char} {c : Char} (hc : c ∈ s) (hblank : isBlank c = false) :
    trimBlank s ≠ [] := by
  intro h
  have hall : ∀ x ∈ s.dropWhile isBlank, isBlank x := by
    simpa [trimBlank, List.dropWhile_eq_nil_iff] using h
  have hnil : s.dropWhile isBlank = [] := by
    by_contra hne
    have hhead := List.head_dropWhile_not isBlank hne
    rw [hall _ (List.head_mem hne)] at hhead
    cases hhead
  rw [List.dropWhile_eq_nil_iff] at hnil
  rw [hnil c hc] at hblank
  cases hblank

/-- The text of recommendations: their lines, each ended by a newline. -/
theorem toList_recommendationText (recs : List (Int × List (Recommendation Float))) :
    (recommendationText recs).toList =
      ((recs.map fun r => (formatLine r.1 r.2).toList).map (· ++ ['\n'])).flatten := by
  simp [recommendationText, String.toList_join, List.flatMap, Function.comp_def]

/-- A line read from the file, with its line feed, gives back the user and the items it was
written from. -/
theorem parseLine_formatLine_feed (r : Int × List (Recommendation Float))
    (hr : decimalLength r.1.natAbs ≤ maxIntDigits ∧
      ∀ i ∈ r.2, decimalLength i.item.natAbs ≤ maxIntDigits ∧
        readFloatLiteral? (Layout.score.render i.score).toList = some i.score) :
    parseLine (String.ofList ((formatLine r.1 r.2).toList ++ ['\n'])) = .ok r := by
  refine parseLine_eq _ ?_ hr.1 hr.2
  rw [String.toList_ofList]
  exact dropNewlines_of_getLast? (getLast?_formatLine r.1 r.2) 1

/-- No line of the file is blank: each holds its closing bracket. -/
theorem trimBlank_formatLine_feed (u : Int) (items : List (Recommendation Float)) :
    trimBlank ((formatLine u items).toList ++ ['\n']) ≠ [] := by
  have hbracket : ']' ∈ (formatLine u items).toList := List.mem_of_getLast? (getLast?_formatLine _ _)
  have hblank : isBlank ']' = false := by decide
  exact trimBlank_ne_nil (List.mem_append_left _ hbracket) hblank

/-- The text written from recommendations of distinct users reads back as those recommendations,
by ascending user. -/
theorem readRecommendationText_recommendationText (recs : List (Int × List (Recommendation Float)))
    (hdistinct : (recs.map Prod.fst).Nodup)
    (hrecs : ∀ r ∈ recs, decimalLength r.1.natAbs ≤ maxIntDigits ∧
      ∀ i ∈ r.2, decimalLength i.item.natAbs ≤ maxIntDigits ∧
        readFloatLiteral? (Layout.score.render i.score).toList = some i.score) :
    readRecommendationText (recommendationText recs) =
      .ok (recs.mergeSort fun a b => decide (a.1 ≤ b.1)) := by
  have hbreaks : ∀ l ∈ recs.map (fun r => (formatLine r.1 r.2).toList), '\n' ∉ l ∧ '\r' ∉ l := by
    intro l hl
    obtain ⟨r, -, rfl⟩ := List.mem_map.1 hl
    exact breaks_not_mem_formatLine r.1 r.2
  have hlines : (fileLines (recommendationText recs).toList).filter (fun l => !(trimBlank l).isEmpty) =
      (recs.map fun r => (formatLine r.1 r.2).toList).map (· ++ ['\n']) := by
    rw [toList_recommendationText, fileLines_flatten hbreaks]
    refine List.filter_eq_self.2 fun l hl => ?_
    obtain ⟨r, -, rfl⟩ : ∃ r ∈ recs, (formatLine r.1 r.2).toList ++ ['\n'] = l := by
      simpa using hl
    simpa using trimBlank_formatLine_feed r.1 r.2
  have hparsed : ((recs.map fun r => (formatLine r.1 r.2).toList).map (· ++ ['\n'])).mapM
      (fun l => parseLine (String.ofList l)) = .ok recs := by
    rw [List.map_map, List.mapM_map]
    refine (mapM_eq_ok _ _ _).2 ⟨id, fun r hr => ?_, (List.map_id _).symm⟩
    simp only [Function.comp_apply, id]
    exact parseLine_formatLine_feed r (hrecs r hr)
  simp only [readRecommendationText, hlines, hparsed, bind, Except.bind, pure, Except.pure]
  rw [Ledger.entries_ofList hdistinct]

/-- A file written with a text reads as that text. -/
theorem readRecommendations_writeWhole {w w' : Workspace} {p : PathName} {text : String}
    (h : w.writeWhole p (.bytes text.toUTF8.toList) = .ok w') :
    readRecommendations w' p = readRecommendationText text := by
  obtain ⟨hex, hopen⟩ := Workspace.openRead_writeWhole h
  simp only [readRecommendations, hex, hopen, Bool.not_true, Bool.false_eq_true, if_false, bind,
    Except.bind, Workspace.decodeText_toUTF8]

/-- The recommendation file format round-trips: every line reads back as the user and items it
was written from, and a file written whole from recommendations of distinct users reads back as
those recommendations by ascending user, each item list in its order and every score the double
it was. The scores are taken to read back from their rendering one by one. -/
theorem recommendationText_round_trip (recs : List (Int × List (Recommendation Float)))
    (hdistinct : (recs.map Prod.fst).Nodup)
    (hrecs : ∀ r ∈ recs, decimalLength r.1.natAbs ≤ maxIntDigits ∧
      ∀ i ∈ r.2, decimalLength i.item.natAbs ≤ maxIntDigits ∧
        readFloatLiteral? (Layout.score.render i.score).toList = some i.score) :
    (∀ r ∈ recs, parseLine (formatLine r.1 r.2) = .ok r) ∧
      ∀ (w w' : Workspace) (p : PathName),
        w.writeWhole p (.bytes (recommendationText recs).toUTF8.toList) = .ok w' →
          readRecommendations w' p = .ok (recs.mergeSort fun a b => decide (a.1 ≤ b.1)) := by
  refine ⟨fun r hr => parseLine_eq _ ?_ (hrecs r hr).1 (hrecs r hr).2, fun w w' p h => ?_⟩
  · simpa using dropNewlines_of_getLast? (getLast?_formatLine r.1 r.2) 0
  · rw [readRecommendations_writeWhole h]
    exact readRecommendationText_recommendationText recs hdistinct hrecs

/-- Two users with empty lists read back, sorted by user. -/
theorem recommendationText_round_trip_emptyLists :
    (∀ r ∈ [((3 : Int), ([] : List (Recommendation Float))), (-12, [])],
        parseLine (formatLine r.1 r.2) = .ok r) ∧
      ∀ (w w' : Workspace) (p : PathName),
        w.writeWhole p (.bytes (recommendationText [(3, []), (-12, [])]).toUTF8.toList) = .ok w' →
          readRecommendations w' p =
            .ok ([((3 : Int), ([] : List (Recommendation Float))), (-12, [])].mergeSort
              fun a b => decide (a.1 ≤ b.1)) :=
  recommendationText_round_trip _ (by decide) (by simp; decide)

end ItemRecommender
