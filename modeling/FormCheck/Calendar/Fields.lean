import FormCheck.Calendar.Moment

/-!
The fields that a text gives of a moment, and the moment they determine. A field set twice must
agree with itself; fields beyond those that determine the moment must agree with it.
-/
namespace FormCheck.Calendar

/-- Why fields determine nothing. -/
inductive Gap where
  | insufficient
  | outOfRange
  | impossible
  deriving DecidableEq

/-- Whether more fields could not mend what was found. -/
def isFinal {α : Type} : Except Gap α → Bool
  | .error .outOfRange | .error .impossible => true
  | _ => false

structure Fields where
  year : Option Int := none
  yearOfCentury : Option Nat := none
  month : Option Nat := none
  day : Option Nat := none
  ordinal : Option Nat := none
  weekday : Option Weekday := none
  afternoon : Option Bool := none
  hourOfHalf : Option Nat := none
  minute : Option Nat := none
  second : Option Nat := none
  nano : Option Nat := none
  timestamp : Option Int := none
  offset : Option Int := none
  deriving DecidableEq

/-- A field after a value was put to it: `none` if it held another. -/
def agreeing {α : Type} [DecidableEq α] (old : Option α) (x : α) : Option (Option α) :=
  match old with
  | none => some (some x)
  | some y => if y = x then some (some y) else none

namespace Fields

def setYear (f : Fields) (y : Int) : Option Fields :=
  if -2147483648 ≤ y ∧ y ≤ 2147483647 then
    (agreeing f.year y).map fun year => { f with year }
  else none

def setYearOfCentury (f : Fields) (n : Nat) : Option Fields :=
  if n ≤ 99 then
    (agreeing f.yearOfCentury n).map fun yearOfCentury => { f with yearOfCentury }
  else none

def setMonth (f : Fields) (n : Nat) : Option Fields :=
  if 1 ≤ n ∧ n ≤ 12 then (agreeing f.month n).map fun month => { f with month } else none

def setDay (f : Fields) (n : Nat) : Option Fields :=
  if 1 ≤ n ∧ n ≤ 31 then (agreeing f.day n).map fun day => { f with day } else none

def setOrdinal (f : Fields) (n : Nat) : Option Fields :=
  if 1 ≤ n ∧ n ≤ 366 then (agreeing f.ordinal n).map fun ordinal => { f with ordinal } else none

def setWeekday (f : Fields) (w : Weekday) : Option Fields :=
  (agreeing f.weekday w).map fun weekday => { f with weekday }

def setAfternoon (f : Fields) (b : Bool) : Option Fields :=
  (agreeing f.afternoon b).map fun afternoon => { f with afternoon }

def setHourOfHalf (f : Fields) (n : Nat) : Option Fields :=
  (agreeing f.hourOfHalf n).map fun hourOfHalf => { f with hourOfHalf }

def setHour (f : Fields) (n : Nat) : Option Fields :=
  if n < 24 then (f.setAfternoon (decide (12 ≤ n))).bind (·.setHourOfHalf (n % 12)) else none

def setHour12 (f : Fields) (n : Nat) : Option Fields :=
  if 1 ≤ n ∧ n ≤ 12 then f.setHourOfHalf (n % 12) else none

def setMinute (f : Fields) (n : Nat) : Option Fields :=
  if n < 60 then (agreeing f.minute n).map fun minute => { f with minute } else none

/-- Sixty stands for a leap second. -/
def setSecond (f : Fields) (n : Nat) : Option Fields :=
  if n ≤ 60 then (agreeing f.second n).map fun second => { f with second } else none

def setNano (f : Fields) (n : Nat) : Option Fields :=
  if n < 1000000000 then (agreeing f.nano n).map fun nano => { f with nano } else none

def setTimestamp (f : Fields) (n : Int) : Option Fields :=
  (agreeing f.timestamp n).map fun timestamp => { f with timestamp }

def setOffset (f : Fields) (n : Int) : Option Fields :=
  (agreeing f.offset n).map fun offset => { f with offset }

/-- The year: two digits alone stand for 1970 to 2069. -/
def resolveYear (f : Fields) : Except Gap (Option Int) :=
  match f.year, f.yearOfCentury with
  | y, none => .ok y
  | some y, some r => if 0 ≤ y ∧ y % 100 = r then .ok (some y) else .error .impossible
  | none, some r => .ok (some (if r < 70 then 2000 + r else 1900 + r))

def holdsDate (f : Fields) (d : Date) : Bool :=
  f.year.getD d.year == d.year &&
  (match f.yearOfCentury with
    | none => true
    | some r => decide (0 ≤ d.year) && d.year % 100 == r) &&
  f.month.getD d.month == d.month && f.day.getD d.day == d.day &&
  f.ordinal.getD d.ordinal == d.ordinal && f.weekday.getD d.weekday == d.weekday

def date (f : Fields) : Except Gap Date := do
  let found ← match ← f.resolveYear, f.month, f.day, f.ordinal with
    | some y, some m, some d, _ => pure (Date.mk? y m d)
    | some y, _, _, some n => pure (Date.ofOrdinal? y n)
    | _, _, _, _ => .error .insufficient
  match found with
  | none => .error .outOfRange
  | some d => if f.holdsDate d then .ok d else .error .impossible

def time (f : Fields) : Except Gap TimeOfDay := do
  match f.afternoon, f.hourOfHalf, f.minute with
  | some half, some hour, some minute =>
    let (second, leap) := match f.second.getD 0 with
      | 60 => (59, 1000000000)
      | s => (s, 0)
    let nano ← match f.nano, f.second with
      | none, _ => pure 0
      | some n, some _ => pure n
      | some _, none => .error .insufficient
    match TimeOfDay.mk? (hour + if half then 12 else 0) minute second (leap + nano) with
    | some t => .ok t
    | none => .error .outOfRange
  | _, _, _ => .error .insufficient

def momentOfTimestamp? (f : Fields) (timestamp offset : Int) : Option Moment := do
  let found ← Moment.ofTimestamp? (timestamp + offset) 0
  let (found, f) ←
    if f.second = some 60 then
      match found.time.second with
      | 59 => some (found, f)
      | 0 => (found.shift? (-1)).map fun m => (m, f)
      | _ => none
    else (f.setSecond found.time.second).map fun f => (found, f)
  let f ← f.setYear found.date.year
  let f ← f.setOrdinal found.date.ordinal
  let f ← f.setHour found.time.hour
  let f ← f.setMinute found.time.minute
  match f.date, f.time with
  | .ok date, .ok time => some ⟨date, time⟩
  | _, _ => none

def moment? (f : Fields) (offset : Int) : Option Moment :=
  match f.date, f.time with
  | .ok date, .ok time =>
    let m : Moment := ⟨date, time⟩
    match f.timestamp with
    | none => some m
    | some given =>
      let actual := m.timestamp - offset
      if given = actual ∨ (1000000000 ≤ time.nano ∧ given = actual + 1) then some m else none
  | date, time =>
    match f.timestamp with
    | none => none
    | some given =>
      if isFinal date || isFinal time then none
      else f.momentOfTimestamp? given offset

def isOffset (seconds : Int) : Bool := decide (-86400 < seconds ∧ seconds < 86400)

def universal? (f : Fields) : Option Moment := do
  let offset ← f.offset
  let m ← f.moment? offset
  if isOffset offset then m.shift? (-offset) else none

end Fields

end FormCheck.Calendar
