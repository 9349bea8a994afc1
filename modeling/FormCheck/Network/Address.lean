import FormCheck.Decimal.Literal
import FormCheck.Text.Hex

/-!
Addresses of the network layer in their usual text form: four decimal octets, or eight groups of
hexadecimal digits with at most one run of zero groups left out.
-/
namespace FormCheck.Network

/-- Reads an octet: at most three digits, no zero before another, at most 255. -/
def scanOctet? (s : List Char) : Option (List Char) :=
  let digits := s.takeWhile Char.isDigit
  if digits.isEmpty ∨ 3 < digits.length ∨ (digits.head? = some '0' ∧ digits ≠ ['0']) ∨
      255 < Decimal.natOfDigits digits then none
  else some (s.dropWhile Char.isDigit)

/-- Reads what stands at index `i`: behind a separator unless it is the first. -/
def separated? (sep : Char) (i : Nat) (read : List Char → Option (List Char))
    (s : List Char) : Option (List Char) :=
  if i = 0 then read s
  else match s with
    | c :: s => if c = sep then read s else none
    | [] => none

def scanV4? (s : List Char) : Option (List Char) := do
  let s ← scanOctet? s
  let s ← separated? '.' 1 scanOctet? s
  let s ← separated? '.' 2 scanOctet? s
  separated? '.' 3 scanOctet? s

def scanGroup? (s : List Char) : Option (List Char) :=
  let digits := s.takeWhile Text.isHexDigit
  if digits.isEmpty ∨ 4 < digits.length then none else some (s.dropWhile Text.isHexDigit)

/-- Reads groups with colons between them: how many places they fill, whether four octets stand
for the last two, and the text after them. `room` places are left from index `i` on. -/
def scanGroups (i : Nat) (s : List Char) : Nat → Nat × Bool × List Char
  | 0 => (i, false, s)
  | room + 1 =>
    match if 1 ≤ room then separated? ':' i scanV4? s else none with
    | some s => (i + 2, true, s)
    | none =>
      match separated? ':' i scanGroup? s with
      | some s => scanGroups (i + 1) s room
      | none => (i, false, s)

def isV4 (s : List Char) : Bool := scanV4? s == some []

def isV6 (s : List Char) : Bool :=
  match scanGroups 0 s 8 with
  | (8, _, rest) => rest.isEmpty
  | (_, true, _) => false
  | (count, false, ':' :: ':' :: rest) =>
    let (_, _, rest) := scanGroups 0 rest (7 - count)
    rest.isEmpty
  | _ => false

end FormCheck.Network
