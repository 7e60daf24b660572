import BuildGate.Decimal.Shortest

namespace BuildGate.Decimal

def Binary.remainder (x y : Binary) : Nat × Int :=
  let exponent := min x.exponent y.exponent
  let scaled (b : Binary) := b.mantissa <<< (b.exponent - exponent).toNat
  (scaled x % scaled y, exponent)

/-- The remainder of a division toward zero; it carries the sign of the dividend. -/
def floatRemainder (x y : Float) : Float :=
  if x.isNaN || y.isNaN || x.isInf || y == 0 then 0.0 / 0.0
  else if y.isInf then x
  else
    let (r, exponent) := (Binary.ofFloat x).remainder (Binary.ofFloat y)
    let magnitude := (Float.ofNat r).scaleB exponent
    if x.toBits.toNat >>> 63 = 1 then -magnitude else magnitude

end BuildGate.Decimal
