import FormCheck.Decimal.Double

/-!
The fewest decimal digits that denote a double. On the grids of 1, 2, … digits the value's two
neighbours are tried in turn: the first grid with a neighbour that rounds to the number wins.
-/
namespace FormCheck.Decimal

/-- Decimal digits and the power of ten of the last one. -/
structure Digits where
  digits : Nat
  exponent : Int
  deriving DecidableEq

/-- Which of two neighbours stands for a value half way between them. -/
inductive Tie where
  | up
  | even
  deriving DecidableEq

def decimalExponent (num den : Nat) : Int :=
  let guess : Int := ((Nat.log2 num : Int) - Nat.log2 den) * 30103 / 100000 - 1
  let reached (e : Int) : Bool :=
    if e < 0 then den ≤ num * Nat.pow 10 e.natAbs else den * Nat.pow 10 e.natAbs ≤ num
  if reached (guess + 2) then guess + 2
  else if reached (guess + 1) then guess + 1
  else guess

/-- The numbers that round to a magnitude, in quarters of a unit; the ends count if it is even. -/
structure Interval where
  low : Nat
  high : Nat
  closed : Bool

def Interval.of (x : Magnitude) : Interval where
  low := 4 * x.units -
    if x.mantissa = Nat.pow 2 52 ∧ 0 < x.scale then Nat.pow 2 x.scale else 2 * Nat.pow 2 x.scale
  high := 4 * x.units + 2 * Nat.pow 2 x.scale
  closed := x.mantissa % 2 == 0

def Interval.holds (i : Interval) (num den : Nat) : Bool :=
  if i.closed then decide (i.low * den ≤ num) && decide (num ≤ i.high * den)
  else decide (i.low * den < num) && decide (num < i.high * den)

def neighbour? (tie : Tie) (x : Magnitude) (step : Int) : Option Nat :=
  -- a grid point `c * 10 ^ step` is `c * num / den` quarters of a unit
  let num := if step < 0 then Nat.pow 2 1076 else Nat.pow 2 1076 * Nat.pow 10 step.natAbs
  let den := if step < 0 then Nat.pow 10 step.natAbs else 1
  let value := 4 * x.units * den
  let below := value / num
  let above := below + 1
  let i := Interval.of x
  match i.holds (below * num) den, i.holds (above * num) den with
  | true, false => some below
  | false, true => some above
  | false, false => none
  | true, true =>
    let rest := value - below * num
    if 2 * rest < num then some below
    else if num < 2 * rest then some above
    else if tie = .even ∧ below % 2 = 0 then some below
    else some above

def firstGrid (tie : Tie) (x : Magnitude) (step : Int) : Nat → Digits
  | 0 => ⟨0, 0⟩
  | count + 1 =>
    match neighbour? tie x step with
    | some c => ⟨c, step⟩
    | none => firstGrid tie x (step - 1) count

def dropZeros (d : Digits) : Nat → Digits
  | 0 => d
  | count + 1 =>
    if d.digits ≠ 0 ∧ d.digits % 10 = 0 then dropZeros ⟨d.digits / 10, d.exponent + 1⟩ count else d

/-- The fewest digits that denote a magnitude, and of those the nearest to it. -/
def shortest (tie : Tie) (x : Magnitude) : Digits :=
  if x.units = 0 then ⟨0, 0⟩
  else dropZeros (firstGrid tie x (decimalExponent x.units (Nat.pow 2 1074)) 18) 20

end FormCheck.Decimal
