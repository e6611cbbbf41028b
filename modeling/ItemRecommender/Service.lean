import ItemRecommender.Decimal.Format
import ItemRecommender.Json
import ItemRecommender.Recommendation.Store
import ItemRecommender.Setting
import ItemRecommender.Text.Fields
import ItemRecommender.Text.Utf8
/-! # Serving recommendations

    Two read-only routes answer from the recommendation file. `/health` reports how many users
    have recommendations; `/recommendations/{user_id}` gives one user's list, cut to the first
    `n` items when the query asks for `n`. A path that names no route, with its trailing slashes
    dropped or one slash added, is not found. A request target is read as a URL (`Target`): its
    fragment is dropped, a target without host is taken below the root, and dot segments are
    removed from the path before it is percent-decoded.

    The user id and `n` are read as integers the way settings are (`Setting.toInt`), and `n`
    must be at least one; all such errors are answered together, those of the path before those
    of the query. Without a recommendation file every route is unavailable (status 503); a user
    without recommendations is not found (status 404). A recommendation file that cannot be read
    fails the request. Scores that are not finite are written as `null`. -/

namespace ItemRecommender

open ItemRecommender.Text

/-- An answer to a request: its status and its JSON body. -/
structure Response where
  status : Nat
  body : Json
  deriving Repr

/-- A route of the service. -/
inductive Route where
  | health
  | user (segment : String)
  deriving DecidableEq, Repr

namespace Service

/-- The file the service answers from. -/
def recommendationsFile : PathName := PathName.ofString "api_recommendations.txt"

/-- The bytes a URL component stands for: `%` and two hex digits stand for one byte, and every
other character for its UTF-8 bytes. -/
def percentBytes : List Char → List UInt8
  | [] => []
  | '%' :: a :: b :: rest =>
    match Json.hexValue? a, Json.hexValue? b with
    | some x, some y => (x * 16 + y).toUInt8 :: percentBytes rest
    | _, _ => '%'.toUInt8 :: percentBytes (a :: b :: rest)
  | c :: rest => (String.singleton c).toUTF8.toList ++ percentBytes rest

/-- The text a URL component stands for. -/
def percentDecode (s : List Char) : String :=
  String.ofList (decodeReplacing (percentBytes s))

/-- A request target read as a URL: whether it names a scheme and a host, its path, and its query.
A fragment is dropped. -/
structure Target where
  hasHost : Bool
  path : List Char
  query : List Char
  deriving DecidableEq, Repr

/-- Whether a character may continue a scheme name. -/
def isSchemeChar (c : Char) : Bool := c.isAlphanum || c = '+' || c = '.' || c = '-'

/-- A scheme at the front of a target, up to its colon (possibly empty), and the rest. -/
def splitScheme (s : List Char) : Option (List Char) × List Char :=
  match s with
  | ':' :: rest => (some [], rest)
  | c :: _ =>
    let name := s.takeWhile isSchemeChar
    match c.isAlpha, s.drop name.length with
    | true, ':' :: rest => (some name, rest)
    | _, _ => (none, s)
  | [] => (none, [])

/-- Whether a character ends the host part of a target. -/
def endsHost (c : Char) : Bool := c = '/' || c = '?' || c = '#'

/-- Splits a request target: an optional scheme, a host after `//`, the path up to `?` or `#`,
the query up to `#`, and the fragment. -/
def Target.parse (r : List Char) : Target :=
  let (scheme, afterScheme) := splitScheme r
  let (host, rest) := match afterScheme with
    | '/' :: '/' :: more => (more.takeWhile (!endsHost ·), more.dropWhile (!endsHost ·))
    | _ => ([], afterScheme)
  let beforeFragment := rest.takeWhile (· ≠ '#')
  ⟨!(scheme.getD []).isEmpty && !host.isEmpty, beforeFragment.takeWhile (· ≠ '?'),
    (beforeFragment.dropWhile (· ≠ '?')).drop 1⟩

/-- A path without its `.` segments, each `..` segment taking away the segment before it (but
never the leading root). -/
def removeDotSegments (path : List Char) : List Char :=
  let kept := (cutAt '/' path).foldl (fun acc seg =>
    if seg = ['.'] then acc
    else if seg = ['.', '.'] then (if acc = [] ∨ acc = [[]] then acc else acc.dropLast)
    else acc ++ [seg]) []
  ['/'].intercalate kept

/-- The path a target asks for. A target without a host is taken below the root, its leading
slashes dropped; then dot segments are removed, and an empty path is the root. -/
def Target.requestPath (t : Target) : List Char :=
  let p := removeDotSegments (if t.hasHost then t.path else '/' :: t.path.dropWhile (· = '/'))
  if p.isEmpty then ['/'] else p

/-- The route a decoded path names. -/
def route? (path : String) : Option Route :=
  if path = "/health" then some .health
  else match (cutAt '/' path.toList).map String.ofList with
    | ["", "recommendations", segment] => if segment.isEmpty then none else some (.user segment)
    | _ => none

/-- The route a path names, also after dropping its trailing slashes or adding one. -/
def resolve? (path : String) : Option Route :=
  match route? path with
  | some r => some r
  | none =>
    if path = "/" then none
    else if path.endsWith "/" then
      route? (String.ofList (path.toList.reverse.dropWhile (· = '/')).reverse)
    else route? (path ++ "/")

/-- The parameters of a query string: pairs split at `&` and at the first `=`, empty pairs
skipped, `+` read as a space before percent-decoding. -/
def queryParams (query : List Char) : List (String × String) :=
  let decode := fun (cs : List Char) => percentDecode (cs.map fun c => if c = '+' then ' ' else c)
  (cutAt '&' query).filterMap fun piece =>
    if piece.isEmpty then none
    else match cutAt '=' piece with
      | [] => none
      | name :: rest => some (decode name, decode ("=".intercalate (rest.map String.ofList)).toList)

/-- One rejected parameter: where it is, the kind of error, its message and the text given. -/
structure ParamError where
  loc : List String
  kind : String
  message : String
  input : String

/-- The body of a response that rejects parameters. -/
def ParamError.body (es : List ParamError) : Json :=
  .object [("detail", .array (es.map fun e =>
    .object [("type", .string e.kind), ("loc", .array (e.loc.map .string)),
      ("msg", .string e.message), ("input", .string e.input)]))]

/-- An integer parameter, at least `low` when a bound is given. -/
def intParam (loc : List String) (low : Option Int) (text : String) : Except ParamError Int :=
  match Setting.toInt (.text text) with
  | .error e => .error ⟨loc, e.kind, e.message, text⟩
  | .ok i =>
    match low with
    | some b =>
      if i < b then .error ⟨loc, "greater_than_equal", s!"Input should be greater than or equal to {b}", text⟩
      else .ok i
    | none => .ok i

/-- A score as the service writes it: `null` when it is not finite. -/
def scoreJson (x : Float) : Json :=
  if x.isNaN || x.isInf then .null else .number (Decimal.Layout.score.render x)

/-- The body of a detail message. -/
def detail (text : String) : Json := .object [("detail", .string text)]

/-- The recommendations the service answers from, or the response when there are none. -/
def store (w : Workspace) : Except Failure (Except Response (List (Int × List (Recommendation Float)))) :=
  match readRecommendations w recommendationsFile with
  | .ok recs => .ok (.ok recs)
  | .error (.recommendationsNotFound _) => .ok (.error ⟨503, detail "Recommendations not computed yet"⟩)
  | .error f => .error f

/-- The response to one user's recommendations, cut to `n` items when given. -/
def userResponse (w : Workspace) (user : Int) (n : Option Int) : Except Failure Response := do
  match ← store w with
  | .error r => pure r
  | .ok recs =>
    match recs.find? (·.1 = user) with
    | none => pure ⟨404, detail s!"No recommendations for user {user}"⟩
    | some (_, items) =>
      let kept := match n with
        | some k => items.take k.toNat
        | none => items
      pure ⟨200, .object [("user_id", Json.ofInt user), ("recommended_items", .array (kept.map
        fun r => .object [("item_id", Json.ofInt r.item), ("score", scoreJson r.score)]))]⟩

/-- The response to a GET request for a URL path with an optional query. -/
def respond (w : Workspace) (request : String) : Except Failure Response := do
  let target := Target.parse request.toList
  let query := target.query
  match resolve? (percentDecode target.requestPath) with
  | none => pure ⟨404, detail "Not Found"⟩
  | some .health =>
    match ← store w with
    | .error r => pure r
    | .ok recs => pure ⟨200, .object [("status", .string "healthy"), ("users", Json.ofInt recs.length)]⟩
  | some (.user segment) =>
    let n := ((queryParams query).reverse.find? (·.1 = "n")).map Prod.snd
    let user := intParam ["path", "user_id"] none segment
    let count := n.map (intParam ["query", "n"] (some 1))
    let errors := (match user with | .error e => [e] | .ok _ => []) ++
      (match count with | some (.error e) => [e] | _ => [])
    match user, count with
    | .ok u, none => userResponse w u none
    | .ok u, some (.ok k) => userResponse w u (some k)
    | _, _ => pure ⟨422, ParamError.body errors⟩

end Service

end ItemRecommender
