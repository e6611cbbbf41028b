import ItemRecommender.Object.Library.Arguments
import ItemRecommender.Object.RealFunctions
import ItemRecommender.Object.Sort
/-! # Statistics of data

    Averages and spreads of a dataset, an iterable of numbers.

    * The mean and the variances are computed exactly: each datum is read as the ratio of
      integers it equals, the sums are ratios, and only the result is converted, to the kind
      the data decide (`DataKind.join`): integers give way to any other kind, fractions to
      floats; decimals mix with nothing but integers. An integer result that is not whole is a
      float. A NaN or infinity among the data makes the result that value.
    * The standard deviations are the square roots of the exact variances, rounded once: the
      integer square root of the ratio scaled to 109 bits, its last bit set when inexact, then
      divided as a ratio. Decimal data give the decimal root, correctly rounded to the
      decimal precision.
    * The medians sort the data; the mode is the first of the most frequent values.
    * The float mean adds the data as floats exactly and rounds once; the geometric mean is the
      exponential of the float mean of the logarithms; the harmonic mean is the count over the
      exact sum of the reciprocals. -/

namespace ItemRecommender.Object

/-- The kinds of numbers a dataset may hold, which decide the kind of a result. -/
inductive DataKind where
  | integer
  | binary
  | wide
  | fraction
  | decimal
  deriving DecidableEq, Repr

/-- The name of a kind of data, as messages show it. -/
def DataKind.name : DataKind → String
  | .integer => "int"
  | .binary => "float"
  | .wide => "float64"
  | .fraction => "Fraction"
  | .decimal => "Decimal"

/-- The kind that two kinds of data give together: integers give way to any kind, fractions
to floats, and the floats of the array library are floats. -/
def DataKind.join (t s : DataKind) : Except Raised DataKind :=
  if t = s then pure t
  else if s = .integer then pure t
  else if t = .integer then pure s
  else match t, s with
    | .binary, .wide | .wide, .binary => pure .wide
    | .fraction, .binary | .fraction, .wide => pure s
    | .binary, .fraction | .wide, .fraction => pure t
    | _, _ => throw ⟨"TypeError", "don't know how to coerce " ++ t.name ++ " and " ++ s.name⟩

/-- The kind of a dataset's result from the kinds of its data; a decimal is named last when it
cannot join the others. -/
def resultKind (kinds : List DataKind) : Except Raised DataKind :=
  let others := kinds.filter (· != .decimal)
  if kinds.contains .decimal then
    if others.contains .fraction then DataKind.join .decimal .fraction
    else match others.find? (· != .integer) with
      | some k => DataKind.join k .decimal
      | none => pure .decimal
  else others.foldlM DataKind.join .integer

/-- The error of a statistic without the data it needs. -/
def statisticsFault (message : String) : Raised := ⟨"StatisticsError", message⟩

/-- The exact value of a decimal number. -/
def decimalExact : DecimalNumber → Exact
  | .finite negative c e =>
    let p : Int := if negative then -(c : Int) else c
    if 0 ≤ e then .ratio (p * Nat.pow 10 e.toNat) 1 else .ratio p (Nat.pow 10 (-e).toNat)
  | .infinite negative => .infinite negative
  | .nan _ _ _ => .nan

/-- The kind of a datum and the exact number it is. -/
def exactDatum (h : Heap) (v : Value) : Except Raised (DataKind × Exact) :=
  match v with
  | .bool b => pure (.integer, .ratio (if b then 1 else 0) 1)
  | .int i => pure (.integer, .ratio i 1)
  | .float x => pure (.binary, Exact.ofFloat x)
  | .double x => pure (.wide, Exact.ofFloat x)
  | .fraction p q => pure (.fraction, .ratio p q)
  | .decimal d => pure (.decimal, decimalExact d)
  | _ => throw ⟨"TypeError", "can't convert type " ++ Text.quote (v.typeName h) ++
      " to numerator/denominator"⟩

/-- A ratio in lowest terms. -/
def lowest (p : Int) (q : Nat) : Int × Nat :=
  let g := Nat.gcd p.natAbs q
  let g := if g = 0 then 1 else g
  (p / g, q / g)

/-- The sum of two ratios, in lowest terms. -/
def addRatio (a b : Int × Nat) : Int × Nat := lowest (a.1 * b.2 + b.1 * a.2) (a.2 * b.2)

/-- The exact sum of data: finite values added as ratios, and the non-finite ones apart, as the
float sum of them. -/
structure ExactTotal where
  kinds : List DataKind
  sum : Int × Nat
  squares : Int × Nat
  special : Option Float
  count : Nat

/-- The exact total of data. -/
def exactTotal (h : Heap) (items : List Value) : Except Raised ExactTotal :=
  items.foldlM (fun t v => do
    let (k, x) ← exactDatum h v
    let kinds := if t.kinds.contains k then t.kinds else t.kinds ++ [k]
    match x with
    | .ratio p q =>
      pure { t with kinds, sum := addRatio t.sum (p, q),
                    squares := addRatio t.squares (p * p, q * q), count := t.count + 1 }
    | other =>
      let f := other.toFloat
      pure { t with kinds, special := some ((t.special.getD 0.0) + f), count := t.count + 1 })
    ⟨[], (0, 1), (0, 1), none, 0⟩

/-- A ratio converted to a kind of data. -/
def convertRatio (kind : DataKind) (r : Int × Nat) : Except Raised Value := do
  let (p, q) := lowest r.1 r.2
  let asFloat := ratioToFloat (p < 0) p.natAbs q
  match kind with
  | .integer => pure (if q = 1 then .int p else .float asFloat)
  | .binary => pure (.float asFloat)
  | .wide => pure (.double asFloat)
  | .fraction => pure (.fraction p q)
  | .decimal =>
    pure (.decimal (← DecimalNumber.div (.finite (p < 0) p.natAbs 0) (.finite false q 0)))

/-- A non-finite total converted to a kind of data. -/
def convertSpecial (kind : DataKind) (x : Float) : Value :=
  match kind with
  | .wide => .double x
  | .decimal => .decimal (if x.isNaN then .nan false false 0 else .infinite (x < 0))
  | _ => .float x

/-- The arithmetic mean of data. -/
def meanOf (items : List Value) : Act Value := do
  let t ← reading fun h => exactTotal h items
  let kind ← reading fun _ => resultKind t.kinds
  if t.count < 1 then throw (statisticsFault "mean requires at least one data point")
  match t.special with
  | some x => pure (convertSpecial kind x)
  | none => reading fun _ => convertRatio kind (lowest t.sum.1 (t.sum.2 * t.count))

/-- `n` rounded up to odd: the integer square root of `n / m`, its last bit set when the root
is not exact. -/
def rootRoundedToOdd (n m : Nat) : Nat :=
  let a := (n / m).sqrt
  if a * a * m != n then a ||| 1 else a

/-- The double nearest to the square root of `n / m`. -/
def sqrtOfRatio (n m : Nat) : Float :=
  let q : Int := ((n.log2 + (if n = 0 then 0 else 1) : Nat) : Int) -
    ((m.log2 + (if m = 0 then 0 else 1) : Nat) : Int) - 109
  let q := Int.fdiv q 2
  if 0 ≤ q then
    let num := rootRoundedToOdd n (m * Nat.pow 2 (2 * q.toNat)) * Nat.pow 2 q.toNat
    ratioToFloat false num 1
  else
    let num := rootRoundedToOdd (n * Nat.pow 2 (2 * (-q).toNat)) m
    ratioToFloat false num (Nat.pow 2 (-q).toNat)

/-- The sum of squared deviations of data and its kind: from their exact mean, or from the
centre given. -/
def squaredDeviations (items : List Value) (centre : Option Value) :
    Act (DataKind × Option Float × (Int × Nat) × Nat) := do
  match centre with
  | some c => do
    let ds ← items.mapM fun x => do
      let d ← x.minus c
      d.times d
    let t ← reading fun h => exactTotal h ds
    let kind ← reading fun _ => resultKind t.kinds
    pure (kind, t.special, t.sum, t.count)
  | none => do
    let t ← reading fun h => exactTotal h items
    let kind ← reading fun _ => resultKind t.kinds
    let n : Int := t.count
    if t.count = 0 then return (kind, none, (0, 1), 0)
    -- (n * sxx - sx * sx) / n, exactly
    let (sx, dx) := t.sum
    let (sxx, dxx) := t.squares
    let num := n * sxx * (dx * dx : Nat) - sx * sx * (dxx : Int)
    pure (kind, t.special, lowest num (dxx * dx * dx * t.count), t.count)

/-- A variance: the squared deviations over the count, less one for a sample. -/
def varianceOf (sample : Bool) (items : List Value) (centre : Option Value) : Act Value := do
  let (kind, special, ss, n) ← squaredDeviations items centre
  let least := if sample then 2 else 1
  if n < least then
    throw (statisticsFault ((if sample then "variance" else "pvariance") ++ " requires at least " ++
      (if sample then "two data points" else "one data point")))
  match special with
  | some x => pure (convertSpecial kind x)
  | none => reading fun _ => convertRatio kind (lowest ss.1 (ss.2 * (n - (least - 1))))

/-- A standard deviation: the square root of a variance, rounded once. -/
def deviationOf (sample : Bool) (items : List Value) (centre : Option Value) : Act Value := do
  let (kind, special, ss, n) ← squaredDeviations items centre
  let least := if sample then 2 else 1
  if n < least then
    throw (statisticsFault ((if sample then "stdev" else "pstdev") ++ " requires at least " ++
      (if sample then "two data points" else "one data point")))
  if special.isSome then throw ⟨"AttributeError", "'float' object has no attribute 'numerator'"⟩
  let (p, q) := lowest ss.1 (ss.2 * (n - (least - 1)))
  if kind = .decimal then
    pure (.decimal (← reading fun _ => DecimalNumber.rootOfRatio p.toNat q))
  else pure (.float (sqrtOfRatio p.toNat q))

/-- Data sorted by the language's `<`. -/
def sortedData (items : List Value) : Act (List Value) := do
  let h ← get
  reading fun _ => sortBy (fun a b => a.compare h .lt b) items

/-- The median of data: the middle datum, or the mean of the two middle ones. -/
def medianOf (which : String) (items : List Value) : Act Value := do
  let data ← sortedData items
  let n := data.length
  if n = 0 then throw (statisticsFault "no median for empty data")
  let at_ (i : Nat) : Value := data.getD i .none
  match which with
  | "low" => pure (if n % 2 = 1 then at_ (n / 2) else at_ (n / 2 - 1))
  | "high" => pure (at_ (n / 2))
  | _ =>
    if n % 2 = 1 then pure (at_ (n / 2))
    else do (← (at_ (n / 2 - 1)).plus (at_ (n / 2))).over (.int 2)

/-- The number of data before the first datum not below `x` (or not at most `x`). -/
def countBelow (h : Heap) (atMost : Bool) (data : List Value) (x : Value) : Except Raised Nat :=
  data.foldlM (fun n d => do
    if ← (if atMost then d.compare h .le x else d.compare h .lt x) then pure (n + 1) else pure n) 0

/-- The median of grouped data: the middle datum taken as the centre of a class of the width
given, interpolated by the data in that class. -/
def groupedMedianOf (items : List Value) (width : Value) : Act Value := do
  let data ← sortedData items
  let n := data.length
  if n = 0 then throw (statisticsFault "no median for empty data")
  let x := data.getD (n / 2) .none
  let h ← get
  let i ← reading fun _ => countBelow h false data x
  let j ← reading fun _ => countBelow h true data x
  let asFloat (v : Value) : Act Float := fun h =>
    match v.toFloat h with
    | .error e => if e.kind = "ValueError" then .error ⟨"TypeError", "Value cannot be converted to a float"⟩
      else .error e
    | ok => ok
  let w ← asFloat width
  let xf ← asFloat x
  let lower := xf - w / 2.0
  let half := (n.toFloat) / 2.0
  pure (.float (lower + w * (half - i.toFloat) / (j - i).toFloat))

/-- The values of data with their counts, in order of first appearance; values are compared as
keys of a map. -/
def countsOf (items : List Value) : Act (List (Value × Nat)) := do
  let h ← get
  let es ← reading fun _ => items.foldlM (fun es x => do
    let n ← match ← findEntry h es x with
      | some (.int n) => pure n
      | _ => pure 0
    putEntry h es x (.int (n + 1))) []
  pure (es.map fun (k, v) => (k, match v with
    | .int n => n.toNat
    | _ => 0))

/-- The first of the most frequent values. -/
def modeOf (items : List Value) : Act Value := do
  match ← countsOf items with
  | [] => throw (statisticsFault "no mode for empty data")
  | first :: rest =>
    pure (rest.foldl (fun best x => if best.2 < x.2 then x else best) first).1

/-- The most frequent values, in order of first appearance. -/
def multimodeOf (items : List Value) : Act Value := do
  let counts ← countsOf items
  let top := counts.foldl (fun m x => max m x.2) 0
  newList ((counts.filter (·.2 = top)).map (·.1))

/-- The float sum of values, added exactly and rounded once. -/
def floatTotal (items : List Value) : Act Float := do
  let s ← items.foldlM (fun s item => do
    let y ← reading fun h => realArgument h item
    reading fun _ => s.add y) ExactSum.empty
  reading fun _ => s.total

/-- The float mean of data, or of data weighted. -/
def floatMeanOf (items : List Value) (weights : Option (List Value)) : Act Value := do
  match weights with
  | none =>
    let total ← floatTotal items
    if items.isEmpty then throw (statisticsFault "fmean requires at least one data point")
    pure (.float (total / items.length.toFloat))
  | some ws =>
    let products ← (items.zip ws).mapM fun (x, w) => x.times w
    let num ← floatTotal products
    if items.length != ws.length then
      throw (statisticsFault "data and weights must be the same length")
    let den ← floatTotal ws
    if den == 0.0 then throw (statisticsFault "sum of weights must be non-zero")
    pure (.float (num / den))

/-- Two data of one size, at least two each, for a joint statistic `what`. -/
def pairedData (what : String) (x y : Value) : Act (List Value × List Value) := do
  let n ← x.length
  if (← y.length) != n then
    throw (statisticsFault (what ++ " requires that both inputs have same number of data points"))
  if n < 2 then throw (statisticsFault (what ++ " requires at least two data points"))
  pure (← x.elements, ← y.elements)

/-- The float sum of the products of paired values, each first less its centre. -/
def productSum (pairs : List (Value × Value)) (a b : Value) : Act Float := do
  floatTotal (← pairs.mapM fun (x, y) => do (← x.minus a).times (← y.minus b))

/-- The float means of two data. -/
def floatMeans (xs ys : List Value) : Act (Value × Value) := do
  let n := xs.length.toFloat
  pure (.float ((← floatTotal xs) / n), .float ((← floatTotal ys) / n))

/-- The sample covariance of two data: the sum of the products of their deviations from their
float means, over the count less one. -/
def covarianceOf (x y : Value) : Act Value := do
  let (xs, ys) ← pairedData "covariance" x y
  let (xbar, ybar) ← floatMeans xs ys
  pure (.float ((← productSum (xs.zip ys) xbar ybar) / (xs.length - 1).toFloat))

/-- The correlation of two data: the sum of the products of their deviations over the square
root of the product of the sums of their squared deviations. -/
def correlationOf (x y : Value) : Act Value := do
  let (xs, ys) ← pairedData "correlation" x y
  let (xbar, ybar) ← floatMeans xs ys
  let sxy ← productSum (xs.zip ys) xbar ybar
  let sxx ← productSum (xs.zip xs) xbar xbar
  let syy ← productSum (ys.zip ys) ybar ybar
  let den := (sxx * syy).sqrt
  if den == 0.0 then throw (statisticsFault "at least one of the inputs is constant")
  pure (.float (sxy / den))

/-- The slope and intercept of the least-squares line through paired data, as a named tuple;
through the origin when `proportional`. -/
def regressionOf (x y : Value) (proportional : Bool) : Act Value := do
  let (xs, ys) ← pairedData "linear regression" x y
  let (slopeOf, intercept) ← if proportional then do
      let sxy ← productSum (xs.zip ys) (.int 0) (.int 0)
      let sxx ← productSum (xs.zip xs) (.int 0) (.int 0)
      pure ((sxy, sxx), fun (_ : Float) => 0.0)
    else do
      let (xbar, ybar) ← floatMeans xs ys
      let sxy ← productSum (xs.zip ys) xbar ybar
      let sxx ← productSum (xs.zip xs) xbar xbar
      let (xm, ym) := match xbar, ybar with
        | .float a, .float b => (a, b)
        | _, _ => (0.0, 0.0)
      pure ((sxy, sxx), fun slope => ym - slope * xm)
  let (sxy, sxx) := slopeOf
  if sxx == 0.0 then throw (statisticsFault "x is constant")
  let slope := sxy / sxx
  pure (.named ⟨"statistics", "LinearRegression"⟩ ["slope", "intercept"]
    [.float slope, .float (intercept slope)])

/-- The geometric mean of data: the exponential of the float mean of their logarithms. -/
def geometricMeanOf (items : List Value) : Act Value := do
  let fault := statisticsFault
    "geometric mean requires a non-empty dataset containing positive numbers"
  let mathOf (name : String) (x : Value) : Act Value :=
    (mathFunction name [x] []).getD (pure .none)
  let logs ← items.mapM fun x => fun h =>
    match mathOf "log" x h with
    | .error e => if e.kind = "ValueError" then .error fault else .error e
    | ok => ok
  if logs.isEmpty then throw fault
  let total ← floatTotal logs
  mathOf "exp" (.float (total / logs.length.toFloat))

/-- The harmonic mean of data, weighted by one each unless weights are given. -/
def harmonicMeanOf (items : List Value) (weights : Option (List Value)) : Act Value := do
  let negative := statisticsFault "harmonic mean does not support negative values"
  let n := items.length
  if n < 1 then throw (statisticsFault "harmonic_mean requires at least one data point")
  match items, weights with
  | [x], none =>
    match x with
    | .int _ | .bool _ | .float _ | .double _ | .fraction _ _ | .decimal _ =>
      if ← x.lessThan (.int 0) then throw negative else pure x
    | _ => throw ⟨"TypeError", "unsupported type"⟩
  | _, _ =>
    let ws := weights.getD (List.replicate n (.int 1))
    if ws.length != n then
      throw (statisticsFault "Number of weights does not match data size")
    let sumWeights ← match weights with
      | none => pure ((n : Int), 1)
      | some ws => do
        for w in ws do
          if ← w.lessThan (.int 0) then throw negative
        let t ← reading fun h => exactTotal h ws
        pure t.sum
    let reciprocals : Act (List Value) := (ws.zip items).mapM fun (p : Value × Value) => do
      if ← p.2.lessThan (.int 0) then throw negative
      if ← p.1.truthy then p.1.over p.2 else pure (Value.int 0)
    let terms : Act (Option (List Value)) := fun h =>
      match reciprocals h with
      | .ok (r, h') => .ok (some r, h')
      | .error e => if e.kind = "ZeroDivisionError" then .ok (none, h) else .error e
    match ← terms with
    | none => pure (.int 0)
    | some rs =>
      let t ← reading fun h => exactTotal h rs
      let kind ← reading fun _ => resultKind t.kinds
      if t.special.isNone ∧ t.sum.1 ≤ 0 then throw (statisticsFault "Weighted sum must be positive")
      match t.special with
      | some x => pure (convertSpecial kind x)
      | none =>
        let (p, q) := t.sum
        let (a, b) := sumWeights
        -- (a / b) / (p / q)
        let num := a * q
        let den := (b : Int) * p
        reading fun _ => convertRatio kind (if den < 0 then lowest (-num) den.natAbs else lowest num den.natAbs)

/-- The cut points dividing sorted data into `n` groups of equal probability. -/
def quantilesOf (items : List Value) (n : Value) (method : Value) : Act Value := do
  if ← n.lessThan (.int 1) then throw (statisticsFault "n must be at least 1")
  let data ← sortedData items
  let ld := data.length
  if ld < 2 then throw (statisticsFault "must have at least two data points")
  let k ← reading fun h => asIndex h n
  let at_ (i : Int) : Value := data.getD i.toNat .none
  let inclusive ← method.equalTo (.str "inclusive")
  let exclusive ← method.equalTo (.str "exclusive")
  if !(inclusive || exclusive) then
    throw ⟨"ValueError", "Unknown method: " ++ (← reading fun h => method.repr h)⟩
  let cuts ← (List.range (k - 1).toNat).mapM fun (i0 : Nat) => do
    let i : Int := i0 + 1
    if inclusive then
      let m : Int := ld - 1
      let j := Int.fdiv (i * m) k
      let delta := Int.fmod (i * m) k
      (← (← (at_ j).times (.int (k - delta))).plus (← (at_ (j + 1)).times (.int delta))).over (.int k)
    else
      let m : Int := ld + 1
      let j := Int.fdiv (i * m) k
      let top : Int := ld - 1
      let j : Int := if j < 1 then 1 else if j > top then top else j
      let delta := i * m - j * k
      (← (← (at_ (j - 1)).times (.int (k - delta))).plus (← (at_ j).times (.int delta))).over (.int k)
  newList cuts

/-- A function of the statistics module, applied, or `none` for a name it does not have. -/
def statisticsFunction (m name : String) (args : List Value) (kwargs : List (String × Value)) :
    Option (Act Value) :=
  let bind (params : List Parameter) : Act (List (Option Value)) :=
    reading fun _ => bindParameters (name ++ "()") params args kwargs
  let data (v : Value) : Act (List Value) := v.elements
  if m = "statistics" then
    match name with
    | "mean" => some do
      match ← bind [required "data"] with
      | [some d] => meanOf (← data d)
      | _ => pure .none
    | "fmean" => some do
      match ← bind [required "data", optional "weights"] with
      | [some d, w] =>
        let ws ← match w with
          | none | some .none => pure none
          | some v => do pure (some (← v.elements))
        floatMeanOf (← data d) ws
      | _ => pure .none
    | "geometric_mean" => some do
      match ← bind [required "data"] with
      | [some d] => geometricMeanOf (← data d)
      | _ => pure .none
    | "harmonic_mean" => some do
      match ← bind [required "data", optional "weights"] with
      | [some d, w] =>
        let ws ← match w with
          | none | some .none => pure none
          | some v => do pure (some (← v.elements))
        harmonicMeanOf (← data d) ws
      | _ => pure .none
    | "median" | "median_low" | "median_high" => some do
      match ← bind [required "data"] with
      | [some d] => medianOf (name.drop 7).toString (← data d)
      | _ => pure .none
    | "median_grouped" => some do
      match ← bind [required "data", optional "interval"] with
      | [some d, w] => groupedMedianOf (← data d) (w.getD (.float 1.0))
      | _ => pure .none
    | "mode" => some do
      match ← bind [required "data"] with
      | [some d] => modeOf (← data d)
      | _ => pure .none
    | "multimode" => some do
      match ← bind [required "data"] with
      | [some d] => multimodeOf (← data d)
      | _ => pure .none
    | "variance" | "pvariance" | "stdev" | "pstdev" => some do
      let sample := name = "variance" ∨ name = "stdev"
      match ← bind [required "data", optional (if sample then "xbar" else "mu")] with
      | [some d, c] =>
        let c := match c with
          | some .none => none
          | other => other
        if name = "variance" ∨ name = "pvariance" then varianceOf sample (← data d) c
        else deviationOf sample (← data d) c
      | _ => pure .none
    | "covariance" | "correlation" => some do
      match ← bind [required "x", required "y"] with
      | [some x, some y] => if name = "covariance" then covarianceOf x y else correlationOf x y
      | _ => pure .none
    | "linear_regression" => some do
      match ← bind [required "x", required "y", keyword "proportional"] with
      | [some x, some y, p] => regressionOf x y (← (p.getD (.bool false)).truthy)
      | _ => pure .none
    | "quantiles" => some do
      match ← bind [required "data", keyword "n", keyword "method"] with
      | [some d, n, method] =>
        quantilesOf (← data d) (n.getD (.int 4)) (method.getD (.str "exclusive"))
      | _ => pure .none
    | _ => none
  else none

end ItemRecommender.Object
