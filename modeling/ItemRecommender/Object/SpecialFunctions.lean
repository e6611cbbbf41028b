import ItemRecommender.Object.Division
/-! # The error function, `expm1` and `log1p`

    Four functions of one double that the math module takes from the C library, computed the
    way the C library computes them, so that they agree with it to the last bit:

    * `erf` and `erfc` by rational approximations on the intervals `[0, 0.84375)`,
      `[0.84375, 1.25)`, `[1.25, 1/0.35)` and `[1/0.35, 28)`; beyond, the tails are `exp` of a
      split square times a rational correction, and far out `erf` is `±1` and `erfc` `0` or `2`;
    * `expm1` reduces its argument by a multiple `k` of `ln 2`, approximates `e^r - 1` on the
      reduced `r` by a rational function, and scales the result back by `2^k`;
    * `log1p` writes `1 + x` as `2^k (1 + f)` with a correction for the rounding of `1 + x`, and
      approximates `log (1 + f)` through `s = f / (2 + f)`.

    Each branch is chosen by the high 32 bits of the argument, as the C library chooses it. -/

namespace ItemRecommender.Object

/-! ## Words of a double -/

/-- The positive infinity. -/
def infinity : Float := 1.0 / 0.0

/-- A quiet NaN. -/
def notANumber : Float := 0.0 / 0.0

/-- The high 32 bits of a double, as a signed integer. -/
def highWord (x : Float) : Int :=
  let w := (x.toBits >>> 32).toNat
  if w < Nat.pow 2 31 then w else (w : Int) - Int.ofNat (Nat.pow 2 32)

/-- A double with its low 32 bits cleared. -/
def dropLowWord (x : Float) : Float := Float.ofBits (x.toBits &&& 0xFFFFFFFF00000000)

/-- A double with its high 32 bits replaced by `w` modulo `2^32`. -/
def withHighWord (x : Float) (w : Int) : Float :=
  let high := (w % Int.ofNat (Nat.pow 2 32)).toNat.toUInt64
  Float.ofBits ((high <<< 32) ||| (x.toBits &&& 0xFFFFFFFF))

/-- The integer part of a double of small magnitude, toward zero. -/
def truncSmall (x : Float) : Int :=
  if x < 0 then -(Int.ofNat (-x).toUInt64.toNat) else Int.ofNat x.toUInt64.toNat

/-! ## The error function -/

/-- The coefficients of `erf` on `[0, 0.84375)`: numerator and denominator in `x²`. -/
def erfNearZero : Array Float × Array Float :=
  (#[4593793367243283304, 13822899094824990995, 13807238563656833359, 13796674727720675556,
      13761006866576447148].map Float.ofBits,
    #[4607182418800017408, 4600839859364092937, 4589349767556288186, 4572508369437551375,
      4549020217062988304, 13749661475056804128].map Float.ofBits)

/-- The coefficients of `erf` on `[0.84375, 1.25)`: numerator and denominator in `|x| - 1`. -/
def erfNearOne : Array Float × Array Float :=
  (#[13790965133951333688, 4601145003363971917, 13823748757779956721, 4599406442792952036,
      13816027262379501804, 4585273783536293355, 13790513781401847615].map Float.ofBits,
    #[4607182418800017408, 4592332853260247843, 4603042691266866995, 4589840220683233703,
      4593713817558660383, 4579014865432206620, 4578062215578719517].map Float.ofBits)

/-- The coefficients of the tail of `erfc` on `[1.25, 1/0.35)`, in `1/x²`. -/
def erfcMiddle : Array Float × Array Float :=
  (#[13800212411695588405, 13827796978819036000, 13845505633051272998, 13857347401788662669,
      13863289878263374438, 13864071267697339314, 13858792548545647346,
      13845086631156695644].map Float.ofBits,
    #[4607182418800017408, 4626224558917056135, 4639047418206938913, 4646352579956710001,
      4648888102296496232, 4646254807205544724, 4637344925850578476, 4619083462031723155,
      13812240933853633122].map Float.ofBits)

/-- The coefficients of the tail of `erfc` on `[1/0.35, 28)`, in `1/x²`. -/
def erfcFar : Array Float × Array Float :=
  (#[13800212411055632202, 13828746559782815198, 13849063674483808602, 13863227943754788248,
      13872191346417463848, 13875595268368259474, 13870585812621211711].map Float.ofBits,
    #[4607182418800017408, 4629232622623347088, 4644439018692124426, 4654473423640940824,
      4659254977712890986, 4657832632290065382, 4647055610571908963,
      13850381821104172386].map Float.ofBits)

/-- `erf 1` rounded to single precision, the constant part on `[0.84375, 1.25)`. -/
def erfAtOne : Float := Float.ofBits 4605786869572042752

/-- `2/√π - 1`, the slope of `erf x - x` at zero. -/
def erfSlope : Float := Float.ofBits 4593793367243283305

/-- A tiny double, whose square underflows. -/
def tinyDouble : Float := 1e-300

/-- The coefficient `i` of an array, zero past its end. -/
def coefficient (cs : Array Float) (i : Nat) : Float := cs.getD i 0.0

/-- The ratio of the polynomials on `[0, 0.84375)` at `z = x²`, grouped in pairs of terms. -/
def ratioNearZero (z : Float) : Float :=
  let (p, q) := erfNearZero
  let c := coefficient
  let z2 := z * z
  let z4 := z2 * z2
  let r := (c p 0 + z * c p 1) + z2 * (c p 2 + z * c p 3) + z4 * c p 4
  let s := (1.0 + z * c q 1) + z2 * (c q 2 + z * c q 3) + z4 * (c q 4 + z * c q 5)
  r / s

/-- The numerator and denominator on `[0.84375, 1.25)` at `s = |x| - 1`, grouped in pairs. -/
def ratioNearOne (s : Float) : Float × Float :=
  let (p, q) := erfNearOne
  let c := coefficient
  let s2 := s * s
  let s4 := s2 * s2
  let s6 := s4 * s2
  ((c p 0 + s * c p 1) + s2 * (c p 2 + s * c p 3) + s4 * (c p 4 + s * c p 5) + s6 * c p 6,
    (1.0 + s * c q 1) + s2 * (c q 2 + s * c q 3) + s4 * (c q 4 + s * c q 5) + s6 * c q 6)

/-- The numerator and denominator of the tail correction at `s = 1/x²`, by the coefficients of
the middle range (`middle`) or the far one. -/
def tailRatio (middle : Bool) (s : Float) : Float × Float :=
  let c := coefficient
  let s2 := s * s
  let s4 := s2 * s2
  let s6 := s4 * s2
  if middle then
    let (r, t) := erfcMiddle
    ((c r 0 + s * c r 1) + s2 * (c r 2 + s * c r 3) + s4 * (c r 4 + s * c r 5) +
        s6 * (c r 6 + s * c r 7),
      (1.0 + s * c t 1) + s2 * (c t 2 + s * c t 3) + s4 * (c t 4 + s * c t 5) +
        s6 * (c t 6 + s * c t 7) + s4 * s4 * c t 8)
  else
    let (r, t) := erfcFar
    ((c r 0 + s * c r 1) + s2 * (c r 2 + s * c r 3) + s4 * (c r 4 + s * c r 5) + s6 * c r 6,
      (1.0 + s * c t 1) + s2 * (c t 2 + s * c t 3) + s4 * (c t 4 + s * c t 5) +
        s6 * (c t 6 + s * c t 7))

/-- `x · erfc x` for `x ≥ 1.25`, as `exp (-x² - 0.5625 + R/S)` with `x²` split so that its
leading part is exact. -/
def scaledTail (middle : Bool) (x : Float) : Float :=
  let (r, s) := tailRatio middle (1.0 / (x * x))
  let z := dropLowWord x
  Float.exp (-z * z - 0.5625) * Float.exp ((z - x) * (z + x) + r / s)

/-- The error function. -/
def errorFunction (x : Float) : Float :=
  let hx := highWord x
  let ix := hx % Int.ofNat (Nat.pow 2 31)
  if ix ≥ 0x7ff00000 then
    if x.isNaN then x else if hx ≥ 0 then 1.0 else -1.0
  else if ix < 0x3feb0000 then
    if ix < 0x3e300000 then
      if ix < 0x00800000 then 0.0625 * (16.0 * x + (16.0 * erfSlope) * x)
      else x + erfSlope * x
    else x + x * ratioNearZero (x * x)
  else if ix < 0x3ff40000 then
    let (p, q) := ratioNearOne (x.abs - 1.0)
    if hx ≥ 0 then erfAtOne + p / q else -erfAtOne - p / q
  else if ix ≥ 0x40180000 then
    if hx ≥ 0 then 1.0 - tinyDouble else tinyDouble - 1.0
  else
    let a := x.abs
    let r := scaledTail (ix < 0x4006DB6E) a
    if hx ≥ 0 then 1.0 - r / a else r / a - 1.0

/-- The complementary error function. -/
def complementaryErrorFunction (x : Float) : Float :=
  let hx := highWord x
  let ix := hx % Int.ofNat (Nat.pow 2 31)
  if ix ≥ 0x7ff00000 then
    if x.isNaN then x else if hx ≥ 0 then 0.0 else 2.0
  else if ix < 0x3feb0000 then
    if ix < 0x3c700000 then 1.0 - x
    else
      let y := ratioNearZero (x * x)
      if hx < 0x3fd00000 then 1.0 - (x + x * y)
      else 0.5 - (x * y + (x - 0.5))
  else if ix < 0x3ff40000 then
    let (p, q) := ratioNearOne (x.abs - 1.0)
    if hx ≥ 0 then (1.0 - erfAtOne) - p / q else 1.0 + (erfAtOne + p / q)
  else if ix < 0x403c0000 then
    let a := x.abs
    if ix ≥ 0x4006DB6D && hx < 0 && ix ≥ 0x40180000 then 2.0 - tinyDouble
    else
      let r := scaledTail (ix < 0x4006DB6D) a
      if hx > 0 then r / a else 2.0 - r / a
  else if hx > 0 then tinyDouble * tinyDouble
  else 2.0 - tinyDouble

/-! ## `expm1` -/

/-- The high and low parts of `ln 2`, the high part with trailing zeros so that its multiples
are exact. -/
def ln2High : Float := Float.ofBits 4604418534311723008

/-- The low part of `ln 2`. -/
def ln2Low : Float := Float.ofBits 4461442080421002358

/-- `1 / ln 2`. -/
def inverseLn2 : Float := Float.ofBits 4609176140021203710

/-- The largest argument whose `expm1` is finite. -/
def expOverflowThreshold : Float := Float.ofBits 4649454530587146735

/-- The coefficients of the rational approximation of `expm1` on the reduced argument. -/
def expm1Coefficients : Array Float :=
  #[4607182418800017408, 13808336697493098740, 4564962959435912581, 13768856570209950647,
    4526346094260933177, 13730065378259354413].map Float.ofBits

/-- `e^x - 1` on the reduced argument `x` with `k` and the correction `c` of the reduction. -/
def expm1Reduced (x c : Float) (k : Int) : Float :=
  let q := coefficient expm1Coefficients
  let hfx := 0.5 * x
  let hxs := x * hfx
  let h2 := hxs * hxs
  let h4 := h2 * h2
  let r1 := (1.0 + hxs * q 1) + h2 * (q 2 + hxs * q 3) + h4 * (q 4 + hxs * q 5)
  let t := 3.0 - r1 * hfx
  let e := hxs * ((r1 - t) / (6.0 - x * t))
  if k = 0 then x - (x * e - hxs)
  else
    let e := (x * (e - c) - c) - hxs
    if k = -1 then 0.5 * (x - e) - 0.5
    else if k = 1 then
      if x < -0.25 then -2.0 * (e - (x + 0.5)) else 1.0 + 2.0 * (x - e)
    else if k ≤ -2 || k > 56 then
      let y := 1.0 - (e - x)
      let y := if k = 1024 then y * 2.0 * Float.ofBits 9214364837600034816
        else withHighWord y (highWord y + k * Int.ofNat (Nat.pow 2 20))
      y - 1.0
    else if k < 20 then
      let t := withHighWord 1.0 (0x3ff00000 - Int.ofNat (0x200000 / Nat.pow 2 k.toNat))
      let y := t - (e - x)
      withHighWord y (highWord y + k * Int.ofNat (Nat.pow 2 20))
    else
      let t := withHighWord 0.0 ((0x3ff - k) * Int.ofNat (Nat.pow 2 20))
      let y := (x - (e + t)) + 1.0
      withHighWord y (highWord y + k * Int.ofNat (Nat.pow 2 20))

/-- `e^x - 1`, accurate near zero. -/
def expMinusOne (x : Float) : Float :=
  let hx := highWord x
  let negative := hx < 0
  let ax := hx % Int.ofNat (Nat.pow 2 31)
  if ax ≥ 0x4043687A ∧ ax ≥ 0x40862E42 ∧ ax ≥ 0x7ff00000 then
    if x.isNaN then x else if negative then -1.0 else x
  else if ax ≥ 0x4043687A ∧ ax ≥ 0x40862E42 ∧ x > expOverflowThreshold then infinity
  else if ax ≥ 0x4043687A ∧ negative then tinyDouble - 1.0
  else if ax > 0x3fd62e42 then
    let (hi, lo, k) :=
      if ax < 0x3FF0A2B2 then
        if negative then (x + ln2High, -ln2Low, (-1 : Int)) else (x - ln2High, ln2Low, (1 : Int))
      else
        let k := truncSmall (inverseLn2 * x + (if negative then -0.5 else 0.5))
        let t := Float.ofInt k
        (x - t * ln2High, t * ln2Low, k)
    let r := hi - lo
    expm1Reduced r ((hi - r) - lo) k
  else if ax < 0x3c900000 then x
  else expm1Reduced x 0.0 0

/-! ## `log1p` -/

/-- The coefficients of the approximation of `log (1 + f)` in `s² = (f / (2 + f))²`. -/
def log1pCoefficients : Array Float :=
  #[0, 4604180019048437139, 4600877379321592324, 4598818590951641945, 4597174411056806063,
    4595719342595441630, 4594685411790997151, 4594499633228436036].map Float.ofBits

/-- `log (1 + x)` from `f`, with `1 + x = 2^k (1 + f)`, the correction `c` of that rounding,
and `hu` zero when `f` is below `2^-20`. -/
def log1pReduced (f c : Float) (k : Int) (hu : Int) : Float :=
  let kf := Float.ofInt k
  let hfsq := 0.5 * f * f
  if hu = 0 then
    if f == 0 then
      if k = 0 then 0.0 else kf * ln2High + (c + kf * ln2Low)
    else
      let r := hfsq * (1.0 - 0.66666666666666666 * f)
      if k = 0 then f - r else kf * ln2High - ((r - (kf * ln2Low + c)) - f)
  else
    let lp := coefficient log1pCoefficients
    let s := f / (2.0 + f)
    let z := s * s
    let z2 := z * z
    let z4 := z2 * z2
    let z6 := z4 * z2
    let r := z * lp 1 + z2 * (lp 2 + z * lp 3) + z4 * (lp 4 + z * lp 5) + z6 * (lp 6 + z * lp 7)
    if k = 0 then f - (hfsq - s * (hfsq + r))
    else kf * ln2High - ((hfsq - (s * (hfsq + r) + (kf * ln2Low + c))) - f)

/-- `log (1 + x)`, accurate near zero; a zero keeps its sign. -/
def logOnePlus (x : Float) : Float :=
  let hx := highWord x
  let ax := hx % Int.ofNat (Nat.pow 2 31)
  if x == 0 then x
  else if hx < 0x3FDA827A ∧ ax ≥ 0x3ff00000 then
    if x == -1.0 then -infinity else notANumber
  else if hx < 0x3FDA827A ∧ ax < 0x3e200000 then
    if ax < 0x3c900000 then x else x - x * x * 0.5
  else if hx < 0x3FDA827A ∧ (hx > 0 ∨ hx ≤ -1076707645) then log1pReduced x 0.0 0 1
  else if hx ≥ 0x7ff00000 then x + x
  else
    let (u, c) :=
      if hx < 0x43400000 then
        let u := 1.0 + x
        let k := highWord u / Int.ofNat (Nat.pow 2 20) - 1023
        (u, (if k > 0 then 1.0 - (u - x) else x - (u - 1.0)) / u)
      else (x, 0.0)
    let k := highWord u / Int.ofNat (Nat.pow 2 20) - 1023
    let hu := highWord u % 0x100000
    if hu < 0x6a09e then log1pReduced (withHighWord u (hu + 0x3ff00000) - 1.0) c k hu
    else
      log1pReduced (withHighWord u (hu + 0x3fe00000) - 1.0) c (k + 1) ((0x100000 - hu) / 4)

end ItemRecommender.Object
