import ItemRecommender.Recommendation.Line
import ItemRecommender.Workspace
/-! # The recommendation file

    The last phase writes one line per user with recommendations, users ascending, each line
    ending in a line feed. The file is read back line by line (`readRecommendationText`). -/

namespace ItemRecommender

/-- The text of the recommendation file. -/
def recommendationText (recs : List (Int × List (Recommendation Float))) : String :=
  String.join (recs.map fun r => formatLine r.1 r.2 ++ "\n")

/-- The recommendations in the file at a path, by user in ascending order. -/
def readRecommendations {α : Type} (w : Workspace α) (p : PathName) :
    Except Failure (List (Int × List (Recommendation Float))) := do
  if !w.exists? p then throw (.recommendationsNotFound p.render)
  readRecommendationText (← Workspace.decodeText (← w.openRead p))

end ItemRecommender
