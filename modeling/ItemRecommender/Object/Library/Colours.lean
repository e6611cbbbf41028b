import ItemRecommender.Object.Library.Arguments
/-! # Colour systems

    Conversions of a colour between red-green-blue coordinates and three other systems: YIQ
    (luma and two chroma coordinates), HLS (hue, lightness, saturation) and HSV (hue,
    saturation, value). Coordinates are numbers from 0 to 1; each formula is computed with the
    language's arithmetic on the values given, so integers, fractions and floats mix as they
    do there, and a value that is no number fails at the first operation that needs one.

    * YIQ: `y = 0.30 r + 0.59 g + 0.11 b`, and the chroma coordinates from `r - y` and `b - y`;
      back to RGB, each coordinate is clamped to `[0, 1]`.
    * HLS and HSV: the hue is the sector of the largest coordinate, offset by the difference of
      the other two over the range, divided by six and taken modulo one. -/

namespace ItemRecommender.Object

/-- A float constant. -/
def flo (x : Float) : Value := .float x

/-- RGB to YIQ. -/
def rgbToYiq (r g b : Value) : Act Value := do
  let y ← (← (← (flo 0.30).times r).plus (← (flo 0.59).times g)).plus (← (flo 0.11).times b)
  let ry ← r.minus y
  let by_ ← b.minus y
  let i ← (← (flo 0.74).times ry).minus (← (flo 0.27).times by_)
  let q ← (← (flo 0.48).times ry).plus (← (flo 0.41).times by_)
  pure (.tuple [y, i, q])

/-- YIQ to RGB. -/
def yiqToRgb (y i q : Value) : Act Value := do
  let r ← (← y.plus (← (flo 0.9468822170900693).times i)).plus (← (flo 0.6235565819861433).times q)
  let g ← (← y.minus (← (flo 0.27478764629897834).times i)).minus (← (flo 0.6356910791873801).times q)
  let b ← (← y.minus (← (flo 1.1085450346420322).times i)).plus (← (flo 1.7090069284064666).times q)
  let r ← if ← r.lessThan (flo 0.0) then pure (flo 0.0) else pure r
  let g ← if ← g.lessThan (flo 0.0) then pure (flo 0.0) else pure g
  let b ← if ← b.lessThan (flo 0.0) then pure (flo 0.0) else pure b
  let r ← if ← (flo 1.0).lessThan r then pure (flo 1.0) else pure r
  let g ← if ← (flo 1.0).lessThan g then pure (flo 1.0) else pure g
  let b ← if ← (flo 1.0).lessThan b then pure (flo 1.0) else pure b
  pure (.tuple [r, g, b])

/-- The hue of a colour from its coordinates, their largest and its distance to the least. -/
def hueOf (r g b maxc rangec : Value) : Act Value := do
  let rc ← (← maxc.minus r).over rangec
  let gc ← (← maxc.minus g).over rangec
  let bc ← (← maxc.minus b).over rangec
  let h ← if ← r.equalTo maxc then bc.minus gc
    else if ← g.equalTo maxc then do (← (flo 2.0).plus rc).minus bc
    else do (← (flo 4.0).plus gc).minus rc
  (← h.over (flo 6.0)).modulo (flo 1.0)

/-- RGB to HLS. -/
def rgbToHls (r g b : Value) : Act Value := do
  let maxc ← Value.extreme true r [g, b]
  let minc ← Value.extreme false r [g, b]
  let sumc ← maxc.plus minc
  let rangec ← maxc.minus minc
  let l ← sumc.over (flo 2.0)
  if ← minc.equalTo maxc then return .tuple [flo 0.0, l, flo 0.0]
  let s ← if ← l.atMost (flo 0.5) then rangec.over sumc
    else do rangec.over (← (← (flo 2.0).minus maxc).minus minc)
  let h ← hueOf r g b maxc rangec
  pure (.tuple [h, l, s])

/-- One coordinate of HLS to RGB, from the hue shifted for it. -/
def hlsCoordinate (m1 m2 hue : Value) : Act Value := do
  let hue ← hue.modulo (flo 1.0)
  if ← hue.lessThan (flo (1.0 / 6.0)) then
    m1.plus (← (← (← m2.minus m1).times hue).times (flo 6.0))
  else if ← hue.lessThan (flo 0.5) then pure m2
  else if ← hue.lessThan (flo (2.0 / 3.0)) then
    m1.plus (← (← (← m2.minus m1).times (← (flo (2.0 / 3.0)).minus hue)).times (flo 6.0))
  else pure m1

/-- HLS to RGB. -/
def hlsToRgb (h l s : Value) : Act Value := do
  if ← s.equalTo (flo 0.0) then return .tuple [l, l, l]
  let m2 ← if ← l.atMost (flo 0.5) then l.times (← (flo 1.0).plus s)
    else do (← l.plus s).minus (← l.times s)
  let m1 ← (← (flo 2.0).times l).minus m2
  pure (.tuple [← hlsCoordinate m1 m2 (← h.plus (flo (1.0 / 3.0))), ← hlsCoordinate m1 m2 h,
    ← hlsCoordinate m1 m2 (← h.minus (flo (1.0 / 3.0)))])

/-- RGB to HSV. -/
def rgbToHsv (r g b : Value) : Act Value := do
  let maxc ← Value.extreme true r [g, b]
  let minc ← Value.extreme false r [g, b]
  let rangec ← maxc.minus minc
  if ← minc.equalTo maxc then return .tuple [flo 0.0, flo 0.0, maxc]
  let s ← rangec.over maxc
  let h ← hueOf r g b maxc rangec
  pure (.tuple [h, s, maxc])

/-- HSV to RGB: the sector of the hue picks the order of the three values. -/
def hsvToRgb (h s v : Value) : Act Value := do
  if ← s.equalTo (flo 0.0) then return .tuple [v, v, v]
  let h6 ← h.times (flo 6.0)
  let i := Value.int (← h6.toInt)
  let f ← h6.minus i
  let p ← v.times (← (flo 1.0).minus s)
  let q ← v.times (← (flo 1.0).minus (← s.times f))
  let t ← v.times (← (flo 1.0).minus (← s.times (← (flo 1.0).minus f)))
  let i ← i.modulo (.int 6)
  match i with
  | .int 0 => pure (.tuple [v, t, p])
  | .int 1 => pure (.tuple [q, v, p])
  | .int 2 => pure (.tuple [p, v, t])
  | .int 3 => pure (.tuple [p, q, v])
  | .int 4 => pure (.tuple [t, p, v])
  | .int 5 => pure (.tuple [v, p, q])
  | _ => pure .none

/-- A function of the colour systems module, applied, or `none` for a name it does not
have. -/
def colourFunction (m name : String) (args : List Value) (kwargs : List (String × Value)) :
    Option (Act Value) :=
  let three (a b c : String) (run : Value → Value → Value → Act Value) : Act Value := do
    match ← reading fun _ => bindParameters (name ++ "()") [required a, required b, required c]
        args kwargs with
    | [some x, some y, some z] => run x y z
    | _ => pure .none
  if m = "colorsys" then
    match name with
    | "rgb_to_yiq" => some (three "r" "g" "b" rgbToYiq)
    | "yiq_to_rgb" => some (three "y" "i" "q" yiqToRgb)
    | "rgb_to_hls" => some (three "r" "g" "b" rgbToHls)
    | "hls_to_rgb" => some (three "h" "l" "s" hlsToRgb)
    | "rgb_to_hsv" => some (three "r" "g" "b" rgbToHsv)
    | "hsv_to_rgb" => some (three "h" "s" "v" hsvToRgb)
    | _ => none
  else none

end ItemRecommender.Object
