import FormCheck.Decimal.Shortest

/-!
How a double is written: which numbers are written out in full, what a whole number ends in, and
how an exponent looks. The digits are the shortest that denote the number.
-/
namespace FormCheck.Decimal

structure Layout where
  /-- The exponents of the first digit that are written in full, without an exponent. -/
  positional : Int → Bool
  /-- What ends a whole number written in full. -/
  wholeEnd : String
  /-- The sign of a positive exponent. -/
  plus : String
  tie : Tie
  nan : String
  infinity : String
  negativeInfinity : String

def zeros (n : Nat) : List Char := List.replicate n '0'

def digitsOf (n : Nat) : List Char := Nat.toDigits 10 n

def Digits.inFull (wholeEnd : String) (d : Digits) : List Char :=
  let cs := digitsOf d.digits
  if 0 ≤ d.exponent then cs ++ zeros d.exponent.natAbs ++ wholeEnd.toList
  else
    let places := d.exponent.natAbs
    let cs := zeros (places + 1 - cs.length) ++ cs
    cs.take (cs.length - places) ++ '.' :: cs.drop (cs.length - places)

def Digits.withExponent (plus : String) (d : Digits) : List Char :=
  let cs := digitsOf d.digits
  let e : Int := d.exponent + (cs.length - 1)
  let mantissa := match cs with
    | [] => []
    | [c] => [c]
    | c :: cs => c :: '.' :: cs
  mantissa ++ 'e' :: (if e < 0 then ['-'] else plus.toList) ++ digitsOf e.natAbs

def Layout.write (l : Layout) : Double → String
  | .nan => l.nan
  | .infinite false => l.infinity
  | .infinite true => l.negativeInfinity
  | .finite negative x =>
    let d := shortest l.tie x
    let text :=
      if l.positional (d.exponent + ((digitsOf d.digits).length - 1)) then d.inFull l.wholeEnd
      else d.withExponent l.plus
    String.ofList (if negative then '-' :: text else text)

end FormCheck.Decimal
