import FormCheck.Network.Address
import FormCheck.Text.Hex
import FormCheck.Text.Utf8
import FormCheck.Web.HostName

/-!
The hosts of web addresses. Where the scheme is one of the web's, a host is a name or a number;
elsewhere it is any text without the marks that divide an address.
-/
namespace FormCheck.Web

/-- A host as an address names it. A name is kept by its labels. -/
inductive Host where
  | name (labels : List (List Char))
  | v4 (number : Nat)
  | v6 (text : List Char)
  | opaqueText (text : List Char)
  deriving DecidableEq

def percentDecode : List Char → List UInt8
  | [] => []
  | c :: s =>
    let plain := String.utf8EncodeChar c ++ percentDecode s
    if c = '%' then
      match s with
      | a :: b :: rest =>
        match Text.hexValue? a, Text.hexValue? b with
        | some x, some y => UInt8.ofNat (16 * x + y) :: percentDecode rest
        | _, _ => plain
      | _ => plain
    else plain

def isDigitOf (radix : Nat) (c : Char) : Bool :=
  (Text.hexValue? c).any fun d => d < radix

/-- A number in decimal digits, in octal ones behind a zero, or in hexadecimal ones behind `0x`. -/
def number? (s : List Char) : Option Nat :=
  let (radix, digits) := match s with
    | '0' :: 'x' :: rest | '0' :: 'X' :: rest => (16, rest)
    | '0' :: c :: rest => (8, c :: rest)
    | s => (10, s)
  if s.isEmpty ∨ ¬ digits.all (isDigitOf radix) then none
  else some (digits.foldl (fun n c => radix * n + (Text.hexValue? c).getD 0) 0)

def withoutRoot (labels : List (List Char)) : List (List Char) :=
  if labels.getLast? = some [] then labels.dropLast else labels

def endsInNumber (labels : List (List Char)) : Bool :=
  match (withoutRoot labels).getLast? with
  | some last => (!last.isEmpty && last.all Char.isDigit) || (number? last).isSome
  | none => false

/-- The address of up to four numbers: the last fills the bytes that the others leave. -/
def v4Number? (labels : List (List Char)) : Option Nat := do
  let numbers ← (withoutRoot labels).mapM number?
  guard (numbers.length ≤ 4)
  let last ← numbers.getLast?
  let front := numbers.dropLast
  guard (front.all (· ≤ 255) && last < Nat.pow 256 (4 - front.length))
  return front.foldr (fun n rest => n * Nat.pow 256 3 + rest / 256) 0 + last

def bracketed? (s : List Char) : Option Host :=
  match s with
  | '[' :: rest =>
    if rest.getLast? = some ']' ∧ Network.isV6 rest.dropLast then some (.v6 rest.dropLast)
    else none
  | _ => none

def webHost? (s : List Char) : Option Host :=
  if s.head? = some '[' then bracketed? s
  else do
    let name ← Text.decode? ⟨(percentDecode s).toArray⟩
    let labels ← hostName? name.toList
    guard (labels != [[]])
    if endsInNumber labels then return .v4 (← v4Number? labels) else return .name labels

/-- The marks that no host may hold, where it is not one of the web. -/
def dividingMarks : List Char := "\x00\t\n\r #/:<>?@[\\]^|".toList

def opaqueHost? (s : List Char) : Option Host :=
  if s.head? = some '[' then bracketed? s
  else if s.any dividingMarks.contains then none
  else some (.opaqueText s)

end FormCheck.Web
