import BuildGate.Decimal.Shortest

namespace BuildGate.Decimal

structure Layout where
  positional : Int → Bool
  keepsFraction : Bool
  marksPlus : Bool

namespace Layout

/-- Numbers inside documents: positional from `0.00001` up to below `10 ^ 16`. -/
def document : Layout := ⟨fun e => -5 ≤ e && e < 16, true, true⟩

/-- Numbers inside descriptions of expression values: positional from `0.0001` up to below `10 ^ 16`. -/
def described : Layout := ⟨fun e => -4 ≤ e && e < 16, true, false⟩

def bare : Layout := ⟨fun _ => true, false, false⟩

def zeros (n : Nat) : String := String.ofList (List.replicate n '0')

def write (layout : Layout) (d : Decimal) : String :=
  let digits := (Nat.toDigits 10 d.digits)
  let leading := d.exponent + digits.length - 1
  if layout.positional leading then
    if 0 ≤ d.exponent then
      String.ofList digits ++ zeros d.exponent.toNat ++ (if layout.keepsFraction then ".0" else "")
    else if 0 ≤ leading then
      let whole := leading.toNat + 1
      String.ofList (digits.take whole) ++ "." ++ String.ofList (digits.drop whole)
    else
      "0." ++ zeros (-leading - 1).toNat ++ String.ofList digits
  else
    let point := if digits.length = 1 then "" else "."
    let sign := if leading < 0 then "-" else if layout.marksPlus then "+" else ""
    String.ofList (digits.take 1) ++ point ++ String.ofList (digits.drop 1) ++ "e" ++ sign
      ++ toString leading.natAbs

/-- Any binary64 number, in the fewest digits that read back. -/
def render (layout : Layout) (x : Float) : String :=
  if x.isNaN then "NaN"
  else
    let sign := if x.toBits.toNat >>> 63 = 1 then "-" else ""
    let magnitude :=
      if x.isInf then "inf"
      else if x == 0 then (if layout.keepsFraction then "0.0" else "0")
      else layout.write (Binary.ofFloat x).shortest
    sign ++ magnitude

end Layout

end BuildGate.Decimal
