/-!
Double-precision numbers as exact values. A finite one is a whole multiple of 2^-1074, kept in
its one canonical form; `Magnitude.round?` takes a fraction to the nearest, a tie to the even one.
-/
namespace FormCheck

/-- A number of `mantissa * 2 ^ scale` units of 2^-1074, with 53 significant bits if there are so
many. -/
structure Magnitude where
  mantissa : Nat
  scale : Nat
  mantissa_lt : mantissa < Nat.pow 2 53
  scale_le : scale ≤ 2045
  canonical : scale = 0 ∨ Nat.pow 2 52 ≤ mantissa
  deriving DecidableEq

namespace Magnitude

def units (x : Magnitude) : Nat := x.mantissa * Nat.pow 2 x.scale

def zero : Magnitude := ⟨0, 0, by decide, by decide, .inl rfl⟩

/-- The number of canonical parts; other parts are no number, as where one is too large. -/
def mk? (mantissa scale : Nat) : Option Magnitude :=
  if h : mantissa < Nat.pow 2 53 ∧ scale ≤ 2045 ∧ (scale = 0 ∨ Nat.pow 2 52 ≤ mantissa) then
    some ⟨mantissa, scale, h.1, h.2.1, h.2.2⟩
  else none

end Magnitude

def roundHalfEven (num den : Nat) : Nat :=
  let q := num / den
  let r := num % den
  if 2 * r < den then q
  else if den < 2 * r then q + 1
  else if q % 2 = 0 then q else q + 1

def Magnitude.round? (num den : Nat) : Option Magnitude :=
  let scale := Nat.log2 (num / den) - 52
  let mantissa := roundHalfEven num (den * Nat.pow 2 scale)
  if mantissa = Nat.pow 2 53 then mk? (Nat.pow 2 52) (scale + 1) else mk? mantissa scale

inductive Double where
  | nan
  | infinite (negative : Bool)
  | finite (negative : Bool) (magnitude : Magnitude)
  deriving DecidableEq

namespace Double

instance : Inhabited Double := ⟨nan⟩

def zero (negative : Bool) : Double := finite negative .zero

def ofRatio (negative : Bool) (num den : Nat) : Double :=
  match Magnitude.round? (num * Nat.pow 2 1074) den with
  | some x => finite negative x
  | none => infinite negative

def ofNat (n : Nat) : Double := ofRatio false n 1

def ofInt (n : Int) : Double := ofRatio (decide (n < 0)) n.natAbs 1

def signedUnits (negative : Bool) (x : Magnitude) : Int :=
  if negative then -(x.units : Int) else x.units

def isNaN : Double → Bool
  | nan => true
  | _ => false

def isFinite : Double → Bool
  | finite .. => true
  | _ => false

/-- At most, in the order of values. No number is comparable with NaN, and the zeros are equal. -/
def le : Double → Double → Bool
  | nan, _ | _, nan => false
  | infinite true, _ | _, infinite false => true
  | infinite false, _ | _, infinite true => false
  | finite n x, finite m y => decide (signedUnits n x ≤ signedUnits m y)

def eq (x y : Double) : Bool := x.le y && y.le x

def trunc : Double → Double
  | finite negative x => ofRatio negative (x.units / Nat.pow 2 1074) 1
  | x => x

def isEven : Double → Bool
  | finite _ x => x.units % Nat.pow 2 1075 == 0
  | _ => false

def mul : Double → Double → Double
  | finite n x, finite m y =>
    match Magnitude.round? (x.units * y.units) (Nat.pow 2 1074) with
    | some z => finite (n != m) z
    | none => infinite (n != m)
  | infinite n, infinite m => infinite (n != m)
  | infinite n, finite m x | finite n x, infinite m =>
    if x.units = 0 then nan else infinite (n != m)
  | nan, _ | _, nan => nan

def div : Double → Double → Double
  | finite n x, finite m y =>
    if y.units = 0 then if x.units = 0 then nan else infinite (n != m)
    else ofRatio (n != m) x.units y.units
  | infinite n, finite m _ => infinite (n != m)
  | finite n _, infinite m => zero (n != m)
  | infinite _, infinite _ => nan
  | nan, _ | _, nan => nan

@[simp] theorem nan_le (x : Double) : le nan x = false := by cases x <;> rfl

@[simp] theorem le_nan (x : Double) : le x nan = false := by
  match x with
  | nan | finite _ _ | infinite true | infinite false => rfl

end Double

end FormCheck
