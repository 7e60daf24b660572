namespace BuildGate.Expression.Real

def infinity : Float := 1.0 / 0.0

def undefined : Float := 0.0 / 0.0

def powerOfTwo (exponent : Int) : Float :=
  if exponent < 0 then 1.0 / Float.scaleB 1.0 (-exponent) else Float.scaleB 1.0 exponent

/-- The length of the hypotenuse over two legs, the longer one first, where no square leaves the range.
    The root is brought closer by one step from what its square lacks. -/
def hypotenuseInRange (long short : Float) : Float :=
  let h := (long * long + short * short).sqrt
  let excess :=
    if h ≤ 2.0 * short then
      let delta := h - short
      long * (2.0 * delta - long) + (delta - 2.0 * (long - short)) * delta
    else
      let delta := h - long
      2.0 * delta * (long - 2.0 * short) + ((4.0 * delta - short) * short + delta * delta)
  h - excess / (2.0 * h)

/-- The length of the hypotenuse over two legs. A leg that is far shorter than the other does not count
    beyond rounding, and an infinite one decides even beside an undefined one. -/
def hypotenuse (x y : Float) : Float :=
  if !x.isFinite || !y.isFinite then
    if x.isInf || y.isInf then infinity else x + y
  else
    let (a, b) := (x.abs, y.abs)
    let (long, short) := if a < b then (b, a) else (a, b)
    let negligible := powerOfTwo (-54)
    let scale := powerOfTwo (-600)
    if long > powerOfTwo 511 then
      if short ≤ long * negligible then long + short
      else hypotenuseInRange (long * scale) (short * scale) / scale
    else if short < powerOfTwo (-459) then
      if long ≥ short / negligible then long + short
      else hypotenuseInRange (long / scale) (short / scale) * scale
    else if short ≤ long * negligible then long + short
    else hypotenuseInRange long short

def withSignOf (size sign : Float) : Float :=
  if sign.toBits.toNat >>> 63 = 1 then -size.abs else size.abs

/-- A number above zero as `u * 2 ^ k` with `u` between the roots of one half and of two; `f` is `u - 1`. -/
structure Reduced where
  k : Int
  f : Float

def upperMantissa (x : Float) : Nat := x.toBits.toNat >>> 32 % (1 <<< 20)

def reduce (x : Float) : Reduced :=
  let bits := x.toBits.toNat
  let exponent : Int := ((bits >>> 52 % 2048 : Nat) : Int) - 1023
  let mantissa := bits % (1 <<< 52)
  if upperMantissa x < 0x6a09e then
    ⟨exponent, Float.ofBits (UInt64.ofNat (mantissa + (1023 <<< 52))) - 1.0⟩
  else ⟨exponent + 1, Float.ofBits (UInt64.ofNat (mantissa + (1022 <<< 52))) - 1.0⟩

def logTwo : Float × Float := (6.93147180369123816490e-01, 1.90821492927058770002e-10)

def seriesRest (z : Float) : Float :=
  let z2 := z * z
  let z4 := z2 * z2
  let z6 := z4 * z2
  z * 6.666666666666735130e-01
    + z2 * (3.999999999940941908e-01 + z * 2.857142874366239149e-01)
    + z4 * (2.222219843214978396e-01 + z * 1.818357216161805012e-01)
    + z6 * (1.531383769920937332e-01 + z * 1.479819860511658591e-01)

/-- The logarithm of `2 ^ k * (1 + f)`; `correction` is what rounding has left out of `f`. -/
def logReduced (r : Reduced) (correction : Float) : Float :=
  let k := Float.ofInt r.k
  let f := r.f
  let half := 0.5 * f * f
  if f == 0.0 then
    if r.k = 0 then 0.0 else k * logTwo.1 + (correction + k * logTwo.2)
  else if f.abs < powerOfTwo (-20) then
    let rest := half * (1.0 - 0.66666666666666666 * f)
    if r.k = 0 then f - rest else k * logTwo.1 - ((rest - (k * logTwo.2 + correction)) - f)
  else
    let s := f / (2.0 + f)
    let rest := seriesRest (s * s)
    if r.k = 0 then f - (half - s * (half + rest))
    else k * logTwo.1 - ((half - (s * (half + rest) + (k * logTwo.2 + correction))) - f)

def logOnePlus (x : Float) : Float :=
  if x.isNaN then x
  else if x == -1.0 then -infinity
  else if x < -1.0 then undefined
  else if x.isInf then x
  else if x.abs < powerOfTwo (-54) then x
  else if x.abs < powerOfTwo (-29) then x - x * x * 0.5
  else if -0.2928934097290039 < x && x < 0.4142136573791504 then logReduced ⟨0, x⟩ 0.0
  else if x < powerOfTwo 53 then
    let u := 1.0 + x
    let lost := if u ≥ 2.0 then 1.0 - (u - x) else x - (u - 1.0)
    logReduced (reduce u) (lost / u)
  else logReduced (reduce x) 0.0

def arsinh (x : Float) : Float :=
  let size := x.abs
  let inverse := 1.0 / size
  withSignOf (logOnePlus (size + size / (hypotenuse 1.0 inverse + inverse))) x

def arcosh (x : Float) : Float :=
  if x < 1.0 then undefined else (x + (x - 1.0).sqrt * (x + 1.0).sqrt).log

def artanh (x : Float) : Float := 0.5 * logOnePlus (2.0 * x / (1.0 - x))

end BuildGate.Expression.Real
