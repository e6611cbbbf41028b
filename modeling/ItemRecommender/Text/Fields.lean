/-! # Cutting text into fields

    `cutWhere p s` cuts a text at every character that passes `p`, dropping those characters:
    `n` separators give `n + 1` fields, empty ones included. -/

namespace ItemRecommender.Text

/-- The fields of a text between the characters that pass `p`. -/
def cutWhere (p : Char → Bool) : List Char → List (List Char)
  | [] => [[]]
  | c :: rest =>
    if p c then [] :: cutWhere p rest
    else match cutWhere p rest with
      | [] => [[c]]
      | first :: more => (c :: first) :: more

/-- The fields of a text between occurrences of a separator. -/
def cutAt (sep : Char) (s : List Char) : List (List Char) := cutWhere (· = sep) s

end ItemRecommender.Text
