import FormCheck.Calendar.Date

/-!
Times of day and moments. The last second of a minute may be a leap second: its nanoseconds then
run on from 1 000 000 000. Moments are compared by date, then by time of day.
-/
namespace FormCheck.Calendar

structure TimeOfDay where
  hour : Nat
  minute : Nat
  second : Nat
  nano : Nat
  hour_lt : hour < 24
  minute_lt : minute < 60
  second_lt : second < 60
  nano_lt : nano < 2000000000
  leap : nano < 1000000000 ∨ second = 59
  deriving DecidableEq

namespace TimeOfDay

def mk? (hour minute second nano : Nat) : Option TimeOfDay :=
  if h : hour < 24 ∧ minute < 60 ∧ second < 60 ∧ nano < 2000000000 ∧
      (nano < 1000000000 ∨ second = 59) then
    some ⟨hour, minute, second, nano, h.1, h.2.1, h.2.2.1, h.2.2.2.1, h.2.2.2.2⟩
  else none

def midnight : TimeOfDay :=
  ⟨0, 0, 0, 0, by decide, by decide, by decide, by decide, by decide⟩

def seconds (t : TimeOfDay) : Nat := t.hour * 3600 + t.minute * 60 + t.second

def ofSeconds? (seconds nano : Nat) : Option TimeOfDay :=
  mk? (seconds / 3600) (seconds / 60 % 60) (seconds % 60) nano

def shownSecond (t : TimeOfDay) : Nat := t.second + t.nano / 1000000000

def shownNano (t : TimeOfDay) : Nat := t.nano % 1000000000

end TimeOfDay

structure Moment where
  date : Date
  time : TimeOfDay
  deriving DecidableEq

namespace Moment

def key (m : Moment) : Int × Nat × Nat :=
  (m.date.dayNumber, m.time.seconds, m.time.nano)

def before (a b : Moment) : Bool :=
  let (d, s, n) := a.key
  let (d', s', n') := b.key
  decide (d < d') || d == d' && (decide (s < s') || s == s' && decide (n < n'))

def timestamp (m : Moment) : Int :=
  m.date.dayNumber * 86400 + m.time.seconds

def ofTimestamp? (seconds : Int) (nano : Nat) : Option Moment := do
  let date ← Date.ofDayNumber? (seconds / 86400)
  let time ← TimeOfDay.ofSeconds? (seconds % 86400).toNat nano
  some ⟨date, time⟩

def shift? (m : Moment) (seconds : Int) : Option Moment :=
  ofTimestamp? (m.timestamp + seconds) m.time.nano

end Moment

def padded (width n : Nat) : List Char :=
  let cs := Nat.toDigits 10 n
  List.replicate (width - cs.length) '0' ++ cs

/-- Four digits; outside the years 0 to 9999 also a sign. -/
def yearText (year : Int) : List Char :=
  if 0 ≤ year ∧ year ≤ 9999 then padded 4 year.toNat
  else (if year < 0 then '-' else '+') :: padded 4 year.natAbs

def fractionText (nano : Nat) : List Char :=
  if nano = 0 then []
  else if nano % 1000000 = 0 then '.' :: padded 3 (nano / 1000000)
  else if nano % 1000 = 0 then '.' :: padded 6 (nano / 1000)
  else '.' :: padded 9 nano

def Moment.text (m : Moment) : String :=
  String.ofList <|
    yearText m.date.year ++ '-' :: padded 2 m.date.month ++ '-' :: padded 2 m.date.day ++
    'T' :: padded 2 m.time.hour ++ ':' :: padded 2 m.time.minute ++
    ':' :: padded 2 m.time.shownSecond ++ fractionText m.time.shownNano

end FormCheck.Calendar
