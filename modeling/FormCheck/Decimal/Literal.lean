import FormCheck.Decimal.Double
import FormCheck.Text.Blank

/-!
Decimal literals and the numbers they denote. A literal is a sign, digits with at most one
point among or beside them, and an exponent; its value is rounded once, to the nearest double.
-/
namespace FormCheck.Decimal

def digitValue (c : Char) : Nat := c.toNat - 48

def natOfDigits (digits : List Char) : Nat :=
  digits.foldl (fun n c => 10 * n + digitValue c) 0

structure Literal where
  negative : Bool
  whole : List Char
  fraction : List Char
  exponent : Int

def takeSign : List Char → Bool × List Char
  | '-' :: cs => (true, cs)
  | '+' :: cs => (false, cs)
  | cs => (false, cs)

def readExponent? : List Char → Option Int
  | [] => some 0
  | c :: cs =>
    if c = 'e' ∨ c = 'E' then
      let (negative, digits) := takeSign cs
      if digits ≠ [] ∧ digits.all Char.isDigit then
        some (if negative then -(natOfDigits digits : Int) else natOfDigits digits)
      else none
    else none

def Literal.read? (s : List Char) : Option Literal :=
  let (negative, s) := takeSign s
  let whole := s.takeWhile Char.isDigit
  let (fraction, s) := match s.dropWhile Char.isDigit with
    | '.' :: cs => (cs.takeWhile Char.isDigit, cs.dropWhile Char.isDigit)
    | cs => ([], cs)
  if whole = [] ∧ fraction = [] then none
  else (readExponent? s).map fun exponent => ⟨negative, whole, fraction, exponent⟩

/-- The double next to `digits * 10 ^ exponent`. Beyond 10^310 and 10^-400 it is known beforehand. -/
def scaled (negative : Bool) (digits : Nat) (exponent : Int) : Double :=
  let magnitude : Int := Nat.log2 digits * 30103 / 100000 + exponent
  if digits = 0 then .zero negative
  else if 310 < magnitude then .infinite negative
  else if magnitude < -400 then .zero negative
  else if exponent < 0 then .ofRatio negative digits (Nat.pow 10 exponent.natAbs)
  else .ofRatio negative (digits * Nat.pow 10 exponent.natAbs) 1

def Literal.value (l : Literal) : Double :=
  scaled l.negative (natOfDigits (l.whole ++ l.fraction)) (l.exponent - l.fraction.length)

def readWord? (s : List Char) : Option Double :=
  let (negative, word) := takeSign s
  let word := word.map Char.toLower
  if word = "inf".toList ∨ word = "infinity".toList then some (.infinite negative)
  else if word = "nan".toList then some .nan
  else none

def readLiteral? (s : List Char) : Option Double :=
  (Literal.read? s).map Literal.value

def read? (s : List Char) : Option Double :=
  (readWord? s).or (readLiteral? s)

end FormCheck.Decimal
