import FormCheck.Calendar.Fields
import FormCheck.Decimal.Literal
import FormCheck.Text.Blank

/-!
Readers of the parts of a written date: numbers, names of months and weekdays, and offsets. Each
returns what it read and the text after it.
-/
namespace FormCheck.Calendar

open FormCheck.Decimal (natOfDigits)

abbrev Reader (α : Type) := List Char → Option (α × List Char)

def takeDigits (most : Nat) (s : List Char) : List Char :=
  (s.take most).takeWhile Char.isDigit

/-- A number of `least` to `most` digits that fits 64 bits with a sign. -/
def scanNumber (least most : Nat) : Reader Nat := fun s =>
  let digits := takeDigits most s
  let n := natOfDigits digits
  if digits.length < least ∨ 9223372036854775807 < n then none
  else some (n, s.drop digits.length)

def scanLongNumber (least : Nat) : Reader Nat := fun s =>
  scanNumber least s.length s

def scanChar (c : Char) (s : List Char) : Option (List Char) :=
  match s with
  | d :: rest => if d = c then some rest else none
  | [] => none

def scanBlanks (s : List Char) : Option (List Char) :=
  match s with
  | c :: _ => if Text.isBlank c then some (Text.trimStart s) else none
  | [] => none

def scanWord (word : List Char) (s : List Char) : Option (List Char) :=
  if (s.take word.length).map Char.toLower = word then some (s.drop word.length) else none

def monthNames : List String :=
  ["January", "February", "March", "April", "May", "June", "July", "August", "September",
    "October", "November", "December"]

def weekdayNames : List String :=
  ["Monday", "Tuesday", "Wednesday", "Thursday", "Friday", "Saturday", "Sunday"]

def shortName (name : String) : List Char := name.toList.take 3

def scanShortName (names : List String) : Reader Nat := fun s =>
  (names.zipIdx).findSome? fun (name, i) =>
    (scanWord ((shortName name).map Char.toLower) s).map fun rest => (i, rest)

/-- A name in three letters, and the rest of its letters if they are there. -/
def scanName (names : List String) : Reader Nat := fun s => do
  let (i, rest) ← scanShortName names s
  let name ← names[i]?
  some (i, (scanWord ((name.toList.drop 3).map Char.toLower) rest).getD rest)

def scanMeridiem : Reader Bool := fun s =>
  match scanWord "am".toList s, scanWord "pm".toList s with
  | some rest, _ => some (false, rest)
  | _, some rest => some (true, rest)
  | none, none => none

/-- A fraction of a second in nanoseconds; digits after the ninth are passed over. -/
def scanFraction : Reader Nat := fun s => do
  let digits := takeDigits 9 s
  let (n, rest) ← scanNumber 1 9 s
  some (n * Nat.pow 10 (9 - digits.length), rest.dropWhile Char.isDigit)

def scanFixedFraction (places : Nat) : Reader Nat := fun s => do
  let (n, rest) ← scanNumber places places s
  some (n * Nat.pow 10 (9 - places), rest)

def scanOffset (minusSign : Bool) (separator : List Char → Option (List Char)) : Reader Int :=
  fun s => do
    let (negative, s) ← match s with
      | '+' :: s => some (false, s)
      | '-' :: s => some (true, s)
      | '\u2212' :: s => if minusSign then some (true, s) else none
      | _ => none
    let (hours, s) ← scanNumber 2 2 s
    let s ← separator s
    let (minutes, s) ← scanNumber 2 2 s
    if minutes < 60 then
      let seconds : Int := hours * 3600 + minutes * 60
      some (if negative then -seconds else seconds, s)
    else none

end FormCheck.Calendar
