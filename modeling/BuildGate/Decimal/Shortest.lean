namespace BuildGate

structure Decimal where
  digits : Nat
  exponent : Int
  deriving DecidableEq, Repr

namespace Decimal

structure Binary where
  mantissa : Nat
  exponent : Int
  /-- The next smaller number is only half as far away as the next larger one. -/
  narrowBelow : Bool
  deriving DecidableEq, Repr

def Binary.ofFloat (x : Float) : Binary :=
  let bits := x.toBits.toNat
  let biased : Nat := bits >>> 52 % 2048
  let fraction : Nat := bits % (1 <<< 52)
  if biased = 0 then ⟨fraction, -1074, false⟩
  else ⟨(1 <<< 52) + fraction, (biased : Int) - 1075, fraction == 0 && 1 < biased⟩

/-- The number and its rounding interval, scaled to whole numbers on one decimal grid: a grid point
    `y` stands for `y * step`, and the interval reaches from `low` to `high` around `centre`. -/
structure Window where
  low : Nat
  centre : Nat
  high : Nat
  step : Nat
  closed : Bool

def Binary.window (b : Binary) (spacing : Int) : Window :=
  let quarter := b.exponent - 2
  let scale := Nat.pow 10 (-spacing).toNat <<< quarter.toNat
  let step := Nat.pow 10 spacing.toNat <<< (-quarter).toNat
  { low := (4 * b.mantissa - (if b.narrowBelow then 1 else 2)) * scale
    centre := 4 * b.mantissa * scale
    high := (4 * b.mantissa + 2) * scale
    step := step
    closed := b.mantissa % 2 = 0 }

def Window.contains (w : Window) (y : Nat) : Bool :=
  if w.closed then decide (w.low ≤ y * w.step ∧ y * w.step ≤ w.high)
  else decide (w.low < y * w.step ∧ y * w.step < w.high)

/-- The grid point in the window that is nearest to its centre; an even one on a tie. -/
def Window.nearest? (w : Window) : Option Nat :=
  let below := w.centre / w.step
  let above := below + 1
  match w.contains below, w.contains above with
  | false, false => none
  | true, false => some below
  | false, true => some above
  | true, true =>
    let downward := w.centre - below * w.step
    let upward := above * w.step - w.centre
    if downward < upward then some below
    else if upward < downward then some above
    else some (if below % 2 = 0 then below else above)

/-- The first hit among the grids `spacing`, `spacing - 1`, …; the last one offers the number below. -/
def Binary.shortestFrom (b : Binary) (spacing : Int) : Nat → Decimal
  | 0 => let w := b.window spacing; ⟨w.centre / w.step, spacing⟩
  | fuel + 1 =>
    match (b.window spacing).nearest? with
    | some 0 | none => b.shortestFrom (spacing - 1) fuel
    | some digits => ⟨digits, spacing⟩

def Binary.ceiling (b : Binary) : Int :=
  ((b.mantissa.log2 : Int) + b.exponent) * 30103 / 100000 + 2

def Binary.shortest (b : Binary) : Decimal := b.shortestFrom b.ceiling 24

end Decimal

end BuildGate
