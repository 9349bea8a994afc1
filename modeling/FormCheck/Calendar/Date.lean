/-!
Dates of the Gregorian calendar, carried back before its start, in the years -262143 to 262142.
Days are also counted from 1970-01-01, which gives weekdays and the step to the next day.
-/
namespace FormCheck.Calendar

def isLeapYear (year : Int) : Bool :=
  year % 4 == 0 && (year % 100 != 0 || year % 400 == 0)

def daysInMonth (year : Int) (month : Nat) : Nat :=
  match month with
  | 2 => if isLeapYear year then 29 else 28
  | 4 | 6 | 9 | 11 => 30
  | _ => 31

def minYear : Int := -262143
def maxYear : Int := 262142

structure Date where
  year : Int
  month : Nat
  day : Nat
  year_mem : minYear ≤ year ∧ year ≤ maxYear
  month_mem : 1 ≤ month ∧ month ≤ 12
  day_mem : 1 ≤ day ∧ day ≤ daysInMonth year month
  deriving DecidableEq

/-- Monday is 0 and Sunday 6. -/
abbrev Weekday := Nat

namespace Date

def mk? (year : Int) (month day : Nat) : Option Date :=
  if h : (minYear ≤ year ∧ year ≤ maxYear) ∧ (1 ≤ month ∧ month ≤ 12) ∧
      (1 ≤ day ∧ day ≤ daysInMonth year month) then
    some ⟨year, month, day, h.1, h.2.1, h.2.2⟩
  else none

def daysBeforeYear (year : Int) : Int :=
  let y := year - 1
  365 * y + y / 4 - y / 100 + y / 400

def daysBeforeMonth (year : Int) (month : Nat) : Nat :=
  (List.range (month - 1)).foldl (fun n m => n + daysInMonth year (m + 1)) 0

def ordinal (d : Date) : Nat :=
  daysBeforeMonth d.year d.month + d.day

def dayNumber (d : Date) : Int :=
  daysBeforeYear d.year + d.ordinal - 719163

def weekday (d : Date) : Weekday :=
  ((d.dayNumber + 3) % 7).toNat

def splitOrdinal (year : Int) (month n : Nat) : Nat → Nat × Nat
  | 0 => (month, n)
  | fuel + 1 =>
    if n ≤ daysInMonth year month then (month, n)
    else splitOrdinal year (month + 1) (n - daysInMonth year month) fuel

def ofOrdinal? (year : Int) (n : Nat) : Option Date :=
  let (month, day) := splitOrdinal year 1 n 11
  mk? year month day

def ofDayNumber? (n : Int) : Option Date :=
  let days := n + 719162
  let (cycles, rest) := (days / 146097, (days % 146097).toNat)
  let centuries := min 3 (rest / 36524)
  let rest := rest - centuries * 36524
  let fours := rest / 1461
  let rest := rest - fours * 1461
  let years := min 3 (rest / 365)
  let rest := rest - years * 365
  ofOrdinal? (400 * cycles + 100 * centuries + 4 * fours + years + 1) (rest + 1)

def next? (d : Date) : Option Date := ofDayNumber? (d.dayNumber + 1)

def previous? (d : Date) : Option Date := ofDayNumber? (d.dayNumber - 1)

theorem mk?_eq_some {year : Int} {month day : Nat} {d : Date} (h : mk? year month day = some d) :
    d.year = year ∧ d.month = month ∧ d.day = day := by
  unfold mk? at h
  split at h
  · cases h; exact ⟨rfl, rfl, rfl⟩
  · cases h

@[simp] theorem mk?_self (d : Date) : mk? d.year d.month d.day = some d := by
  simp [mk?, d.year_mem, d.month_mem, d.day_mem]

end Date

end FormCheck.Calendar
