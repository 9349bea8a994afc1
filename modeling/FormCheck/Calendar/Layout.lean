import FormCheck.Calendar.Scan

/-!
Layouts of written moments: a list of items that a text is read by and a moment is written by.
`Layout.read?` takes a layout from its text, in which a per cent sign begins an item.
-/
namespace FormCheck.Calendar

inductive NumberField where
  | year
  | yearOfCentury
  | month
  | day
  | hour
  | hour12
  | minute
  | second
  | timestamp
  deriving DecidableEq

inductive Item where
  | char (c : Char)
  /-- Written as it is; in reading it stands for any blanks or none. -/
  | blank (c : Char)
  | number (field : NumberField) (zeros : Bool)
  | monthName (full : Bool)
  | weekdayName (full : Bool)
  | meridiem (capitals : Bool)
  /-- A point and a fraction, which may both be missing. -/
  | pointFraction
  | fraction (places : Nat)
  | offset (colon : Bool)
  deriving DecidableEq

abbrev Layout := List Item

namespace Item

def literal (c : Char) : Item :=
  if Text.isBlank c then blank c else char c

/-- A number item is padded with zeros unless a dash stands before its letter. -/
def ofLetter? (dash : Bool) (c : Char) : Option Item :=
  let field (f : NumberField) : Option Item := some (number f (!dash))
  let plain (i : Item) : Option Item := if dash then none else some i
  match c with
  | 'Y' => field .year
  | 'y' => field .yearOfCentury
  | 'm' => field .month
  | 'd' => field .day
  | 'H' => field .hour
  | 'I' => field .hour12
  | 'M' => field .minute
  | 'S' => field .second
  | 's' => some (number .timestamp false)
  | 'p' => plain (meridiem true)
  | 'P' => plain (meridiem false)
  | 'a' => plain (weekdayName false)
  | 'A' => plain (weekdayName true)
  | 'b' => plain (monthName false)
  | 'B' => plain (monthName true)
  | 'z' => plain (offset false)
  | '%' => plain (char '%')
  | _ => none

end Item

namespace Layout

def read? : List Char → Option Layout
  | [] => some []
  | '%' :: '-' :: c :: cs => do return (← Item.ofLetter? true c) :: (← read? cs)
  | '%' :: ':' :: 'z' :: cs => (read? cs).map (.offset true :: ·)
  | '%' :: '.' :: 'f' :: cs => (read? cs).map (.pointFraction :: ·)
  | '%' :: '3' :: 'f' :: cs => (read? cs).map (.fraction 3 :: ·)
  | '%' :: '6' :: 'f' :: cs => (read? cs).map (.fraction 6 :: ·)
  | '%' :: '9' :: 'f' :: cs => (read? cs).map (.fraction 9 :: ·)
  | '%' :: c :: cs => do return (← Item.ofLetter? false c) :: (← read? cs)
  | ['%'] => none
  | c :: cs => (read? cs).map (.literal c :: ·)

end Layout

def NumberField.shape (f : NumberField) (s : List Char) : Nat × Bool :=
  match f with
  | .year => (4, true)
  | .timestamp => (s.length, false)
  | _ => (2, false)

/-- Reads the digits of a number field; a sign lifts the limit on their count. -/
def NumberField.scan (f : NumberField) : Reader Int := fun s =>
  let (most, signed) := f.shape s
  match signed, s with
  | true, '-' :: s => (scanLongNumber 1 s).map fun (n, s) => (-(n : Int), s)
  | true, '+' :: s => (scanLongNumber 1 s).map fun (n, s) => ((n : Int), s)
  | _, s => (scanNumber 1 most s).map fun (n, s) => ((n : Int), s)

def NumberField.set (f : NumberField) (fields : Fields) (n : Int) : Option Fields :=
  match f with
  | .year => fields.setYear n
  | .yearOfCentury => fields.setYearOfCentury n.toNat
  | .month => fields.setMonth n.toNat
  | .day => fields.setDay n.toNat
  | .hour => fields.setHour n.toNat
  | .hour12 => fields.setHour12 n.toNat
  | .minute => fields.setMinute n.toNat
  | .second => fields.setSecond n.toNat
  | .timestamp => fields.setTimestamp n

def Item.scan (i : Item) (fields : Fields) (s : List Char) : Option (Fields × List Char) :=
  match i with
  | .char c => (scanChar c s).map fun s => (fields, s)
  | .blank _ => some (fields, Text.trimStart s)
  | .number f _ => do
    let (n, s) ← f.scan (Text.trimStart s)
    return (← f.set fields n, s)
  | .monthName full => do
    let (i, s) ← (if full then scanName else scanShortName) monthNames s
    return (← fields.setMonth (i + 1), s)
  | .weekdayName full => do
    let (i, s) ← (if full then scanName else scanShortName) weekdayNames s
    return (← fields.setWeekday i, s)
  | .meridiem _ => do
    let (afternoon, s) ← scanMeridiem s
    return (← fields.setAfternoon afternoon, s)
  | .pointFraction =>
    match s with
    | '.' :: s => do
      let (n, s) ← scanFraction s
      return (← fields.setNano n, s)
    | s => some (fields, s)
  | .fraction places => do
    let (n, s) ← scanFixedFraction places s
    return (← fields.setNano n, s)
  | .offset _ => do
    let separator := fun s : List Char => some (s.dropWhile fun c => c == ':' || Text.isBlank c)
    let (seconds, s) ← scanOffset true separator (Text.trimStart s)
    return (← fields.setOffset seconds, s)

def Layout.scan : Layout → Fields → List Char → Option Fields
  | [], fields, s => if s.isEmpty then some fields else none
  | i :: is, fields, s => do
    let (fields, s) ← i.scan fields s
    Layout.scan is fields s

def Layout.fields? (l : Layout) (s : String) : Option Fields :=
  l.scan {} s.toList

def hourOnDial (hour : Nat) : Nat :=
  if hour % 12 = 0 then 12 else hour % 12

def offsetText (colon : Bool) (seconds : Int) : List Char :=
  let minutes := seconds.natAbs / 60
  (if seconds < 0 then '-' else '+') :: padded 2 (minutes / 60) ++
    (if colon then [':'] else []) ++ padded 2 (minutes % 60)

def Item.write (i : Item) (m : Moment) (offset : Int) : List Char :=
  let number (zeros : Bool) (n : Nat) : List Char := padded (if zeros then 2 else 1) n
  let name (names : List String) (i : Nat) (full : Bool) : List Char :=
    let name := names.getD i ""
    if full then name.toList else shortName name
  match i with
  | .char c | .blank c => [c]
  | .number .year zeros =>
    if zeros ∨ m.date.year < 0 ∨ 9999 < m.date.year then yearText m.date.year
    else padded 1 m.date.year.toNat
  | .number .yearOfCentury zeros => number zeros (m.date.year % 100).toNat
  | .number .month zeros => number zeros m.date.month
  | .number .day zeros => number zeros m.date.day
  | .number .hour zeros => number zeros m.time.hour
  | .number .hour12 zeros => number zeros (hourOnDial m.time.hour)
  | .number .minute zeros => number zeros m.time.minute
  | .number .second zeros => number zeros m.time.shownSecond
  | .number .timestamp _ => (toString (m.timestamp - offset)).toList
  | .monthName full => name monthNames (m.date.month - 1) full
  | .weekdayName full => name weekdayNames m.date.weekday full
  | .meridiem capitals =>
    let text := if m.time.hour < 12 then "am".toList else "pm".toList
    if capitals then text.map Char.toUpper else text
  | .pointFraction => fractionText m.time.shownNano
  | .fraction places => padded places (m.time.shownNano / Nat.pow 10 (9 - places))
  | .offset colon => offsetText colon offset

def Layout.write (l : Layout) (m : Moment) (offset : Int) : String :=
  String.ofList (l.flatMap fun i => i.write m offset)

end FormCheck.Calendar
