import FormCheck.Json.Token
import FormCheck.Decimal.Literal

/-!
The numbers that JSON numerals denote: whole numbers of 64 bits with or without a sign, and
doubles for the rest. A double is formed from the digits that fit 64 bits by one or more roundings,
so it is not always the nearest to the numeral.
-/
namespace FormCheck.Json

/-- A number of a JSON value. Whole ones lie from -2^63 to 2^64 - 1. -/
inductive Number where
  | int (n : Int)
  | float (x : Double)
  deriving DecidableEq

namespace Numeral

def wordMax : Nat := 18446744073709551615

def absorb (n : Nat) : List Char → Nat × Nat
  | [] => (n, 0)
  | c :: cs =>
    let next := n * 10 + Decimal.digitValue c
    if wordMax < next then (n, 0)
    else
      let (n, count) := absorb next cs
      (n, count + 1)

def powerOfTen (e : Nat) : Double := .ofRatio false (Nat.pow 10 e) 1

/-- Divides a number of 64 bits by powers of ten of at most 308, with rounding each time. Two such
powers leave nothing of it. -/
def scaleDown (x : Double) (e : Nat) : Double :=
  if e ≤ 308 then x.div (powerOfTen e)
  else if e ≤ 616 then (x.div (powerOfTen 308)).div (powerOfTen (e - 308))
  else .zero false

def scale? (digits : Nat) (exponent : Int) : Option Double :=
  let x := Double.ofNat digits
  if exponent < 0 then some (scaleDown x exponent.natAbs)
  else if digits = 0 then some x
  else if 308 < exponent then none
  else
    let y := x.mul (powerOfTen exponent.natAbs)
    if y.isFinite then some y else none

/-- An exponent too large for 31 bits decides alone between nothing and too much. -/
def exponentMax : Nat := 2147483647

def value? (n : Numeral) : Option Number :=
  let (digits, used) := absorb 0 n.whole
  match n.fraction, n.exponent with
  | none, none =>
    if used < n.whole.length then signed n.negative (scale? digits (n.whole.length - used))
    else if !n.negative then some (.int digits)
    else if digits = 0 ∨ 9223372036854775808 < digits then
      signed true (some (.ofNat digits))
    else some (.int (-digits))
  | fraction, exponent =>
    let (digits, places) := absorb digits (fraction.getD [])
    let shift : Int := (n.whole.length - used : Nat) - (places : Int)
    match exponent with
    | none => signed n.negative (scale? digits shift)
    | some (negative, e) =>
      let e := Decimal.natOfDigits e
      if exponentMax < e then
        if digits ≠ 0 ∧ !negative then none else signed n.negative (some (.zero false))
      else
        signed n.negative (scale? digits (if negative then shift - e else shift + e))
where
  /-- Gives a number that is not negative its sign. -/
  signed (negative : Bool) (x : Option Double) : Option Number :=
    x.map fun x => .float <| match x with
      | .finite _ m => .finite negative m
      | x => x

end Numeral

end FormCheck.Json
