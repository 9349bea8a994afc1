import FormCheck.Calendar.Moment

/-!
Days by their number. Every date is the date of its number of days. A moment moved by no seconds is
the moment itself, and one moved by less than a day has a place where its date has both neighbours.
-/
namespace FormCheck.Calendar

namespace Date

variable {year : Int} {month n : Nat}

def daysInYear (year : Int) : Nat := if isLeapYear year then 366 else 365

private theorem isLeapYear_iff :
    isLeapYear year = true ↔ year % 4 = 0 ∧ (year % 100 ≠ 0 ∨ year % 400 = 0) := by
  simp [isLeapYear]

private theorem daysBeforeYear_succ (year : Int) :
    daysBeforeYear (year + 1) = daysBeforeYear year + daysInYear year := by
  unfold daysBeforeYear daysInYear
  dsimp only
  split
  · next h =>
    rw [isLeapYear_iff] at h
    omega
  · next h =>
    rw [isLeapYear_iff] at h
    omega

private theorem daysBeforeYear_mono {y y' : Int} (h : y ≤ y') :
    daysBeforeYear y ≤ daysBeforeYear y' := by
  unfold daysBeforeYear
  dsimp only
  omega

private theorem daysBeforeYear_lt {y y' : Int} {n' : Nat} (h : y < y') (hn : n ≤ daysInYear y)
    (hn' : 1 ≤ n') : daysBeforeYear y + n < daysBeforeYear y' + n' := by
  have hs := daysBeforeYear_succ y
  have hle := daysBeforeYear_mono h
  omega

private theorem daysBeforeMonth_succ (year : Int) (h : 1 ≤ month) :
    daysBeforeMonth year (month + 1) = daysBeforeMonth year month + daysInMonth year month := by
  unfold daysBeforeMonth
  obtain ⟨k, rfl⟩ := Nat.exists_eq_add_of_le' h
  rw [Nat.add_sub_cancel, Nat.add_sub_cancel, List.range_succ, List.foldl_append]
  rfl

private theorem daysBeforeMonth_mono {m m' : Nat} (year : Int) (hm : 1 ≤ m) (h : m ≤ m') :
    daysBeforeMonth year m ≤ daysBeforeMonth year m' := by
  induction h with
  | refl => exact Nat.le_refl _
  | @step k hk ih =>
    rw [daysBeforeMonth_succ year (Nat.le_trans hm hk)]
    omega

private theorem daysBeforeMonth_thirteen (year : Int) :
    daysBeforeMonth year 13 = daysInYear year := by
  unfold daysInYear daysBeforeMonth
  cases h : isLeapYear year <;> simp [List.range, List.range.loop, daysInMonth, h]

private theorem ordinal_mem (d : Date) : 1 ≤ d.ordinal ∧ d.ordinal ≤ daysInYear d.year := by
  have hs := daysBeforeMonth_succ d.year d.month_mem.1
  have hm := daysBeforeMonth_mono d.year (by omega : 1 ≤ d.month + 1)
    (by have := d.month_mem.2; omega : d.month + 1 ≤ 13)
  rw [daysBeforeMonth_thirteen] at hm
  have hd := d.day_mem
  unfold ordinal
  omega

private theorem daysBeforeMonth_lt_ordinal {m m' d d' : Nat} (hm : 1 ≤ m) (h : m < m')
    (hd : d ≤ daysInMonth year m) (hd' : 1 ≤ d') :
    daysBeforeMonth year m + d < daysBeforeMonth year m' + d' := by
  have hs := daysBeforeMonth_succ year hm
  have hle := daysBeforeMonth_mono year (by omega : 1 ≤ m + 1) h
  omega

private theorem ext_ordinal {a b : Date} (hy : a.year = b.year) (ho : a.ordinal = b.ordinal) :
    a = b := by
  obtain ⟨y, m, d, hy₁, hm₁, hd₁⟩ := a
  obtain ⟨y', m', d', hy₂, hm₂, hd₂⟩ := b
  dsimp only [ordinal] at hy ho hd₁ hd₂
  subst hy
  rcases Nat.lt_trichotomy m m' with h | rfl | h
  · have := daysBeforeMonth_lt_ordinal hm₁.1 h hd₁.2 hd₂.1
    omega
  · obtain rfl : d = d' := by omega
    rfl
  · have := daysBeforeMonth_lt_ordinal hm₂.1 h hd₂.2 hd₁.1
    omega

private theorem splitOrdinal_spec (year : Int) (fuel : Nat) (hm : 1 ≤ month) (hn : 1 ≤ n)
    (h : daysBeforeMonth year month + n ≤ daysBeforeMonth year (month + fuel + 1)) :
    ∃ m d, splitOrdinal year month n fuel = (m, d) ∧ (month ≤ m ∧ m ≤ month + fuel) ∧
      (1 ≤ d ∧ d ≤ daysInMonth year m) ∧
      daysBeforeMonth year m + d = daysBeforeMonth year month + n := by
  induction fuel generalizing month n with
  | zero =>
    rw [Nat.add_zero, daysBeforeMonth_succ year hm] at h
    exact ⟨month, n, rfl, ⟨Nat.le_refl _, Nat.le_refl _⟩, ⟨hn, by omega⟩, rfl⟩
  | succ fuel ih =>
    have hs := daysBeforeMonth_succ year hm
    unfold splitOrdinal
    split
    · next hle => exact ⟨month, n, rfl, ⟨Nat.le_refl _, by omega⟩, ⟨hn, hle⟩, rfl⟩
    · next hgt =>
      have hnext : month + 1 + fuel + 1 = month + (fuel + 1) + 1 := by omega
      have hlater : daysBeforeMonth year (month + 1) + (n - daysInMonth year month) ≤
          daysBeforeMonth year (month + 1 + fuel + 1) := by
        rw [hnext]
        omega
      obtain ⟨m, d, he, hm', hd, hsum⟩ := ih (by omega) (by omega) hlater
      exact ⟨m, d, he, by omega, hd, by omega⟩

private theorem ofOrdinal?_spec (hy : minYear ≤ year ∧ year ≤ maxYear)
    (hn : 1 ≤ n ∧ n ≤ daysInYear year) :
    ∃ d, ofOrdinal? year n = some d ∧ d.year = year ∧ d.ordinal = n := by
  have hzero : daysBeforeMonth year 1 = 0 := rfl
  obtain ⟨m, d, he, hm, hd, hsum⟩ := splitOrdinal_spec year 11 (Nat.le_refl 1) hn.1
    (by rw [hzero, daysBeforeMonth_thirteen]; omega)
  have hvalid : (minYear ≤ year ∧ year ≤ maxYear) ∧ (1 ≤ m ∧ m ≤ 12) ∧
      (1 ≤ d ∧ d ≤ daysInMonth year m) := ⟨hy, by omega, hd⟩
  refine ⟨⟨year, m, d, hvalid.1, hvalid.2.1, hvalid.2.2⟩, ?_, rfl, ?_⟩
  · unfold ofOrdinal?
    rw [he]
    dsimp only
    unfold mk?
    rw [dif_pos hvalid]
  · unfold ordinal
    dsimp only
    omega

def splitDays (n : Int) : Int × Nat :=
  let days := n + 719162
  let (cycles, rest) := (days / 146097, (days % 146097).toNat)
  let centuries := min 3 (rest / 36524)
  let rest := rest - centuries * 36524
  let fours := rest / 1461
  let rest := rest - fours * 1461
  let years := min 3 (rest / 365)
  let rest := rest - years * 365
  (400 * cycles + 100 * centuries + 4 * fours + years + 1, rest + 1)

private theorem ofDayNumber?_eq (n : Int) :
    ofDayNumber? n = ofOrdinal? (splitDays n).1 (splitDays n).2 := rfl

/-- Days in cycles of 400 years, then centuries, spans of four years, years and days. The last day of
a cycle, and of a span of four years, belongs to the year before it. -/
private theorem splitDays_parts (n : Int) :
    ∃ (cycles : Int) (centuries fours years day : Nat),
      splitDays n = (400 * cycles + 100 * centuries + 4 * fours + years + 1, day + 1) ∧
      n + 719162 = 146097 * cycles + 36524 * centuries + 1461 * fours + 365 * years + day ∧
      (centuries ≤ 3 ∧ fours ≤ 24 ∧ years ≤ 3 ∧ day ≤ 365) ∧
      (day = 365 → years = 3 ∧ (fours = 24 → centuries = 3)) := by
  refine ⟨_, _, _, _, _, rfl, ?_⟩
  have hrest : ((n + 719162) % 146097).toNat ≤ 146096 := by omega
  have hsum : n + 719162 =
      146097 * ((n + 719162) / 146097) + ((n + 719162) % 146097).toNat := by omega
  generalize (n + 719162) / 146097 = cycles at hsum ⊢
  generalize ((n + 719162) % 146097).toNat = rest at hsum hrest ⊢
  omega

private theorem splitDays_spec (n : Int) :
    daysBeforeYear (splitDays n).1 + (splitDays n).2 - 719163 = n ∧
    1 ≤ (splitDays n).2 ∧ (splitDays n).2 ≤ daysInYear (splitDays n).1 := by
  obtain ⟨cycles, centuries, fours, years, day, he, hsum, hmax, hlast⟩ := splitDays_parts n
  rw [he]
  unfold daysBeforeYear daysInYear
  dsimp only
  refine ⟨by omega, by omega, ?_⟩
  split
  · omega
  · next h =>
    rw [isLeapYear_iff] at h
    omega

private theorem splitDays_dayNumber (d : Date) : splitDays d.dayNumber = (d.year, d.ordinal) := by
  obtain ⟨hsum, hlow, hhigh⟩ := splitDays_spec d.dayNumber
  obtain ⟨hlow', hhigh'⟩ := d.ordinal_mem
  generalize splitDays d.dayNumber = p at *
  obtain ⟨year, day⟩ := p
  unfold dayNumber at hsum
  dsimp only at *
  rcases Int.lt_trichotomy year d.year with h | rfl | h
  · have := daysBeforeYear_lt h hhigh hlow'
    omega
  · congr 1
    omega
  · have := daysBeforeYear_lt h hhigh' hlow
    omega

private theorem ofDayNumber?_dayNumber (d : Date) : ofDayNumber? d.dayNumber = some d := by
  rw [ofDayNumber?_eq, splitDays_dayNumber]
  obtain ⟨d', h, hy, ho⟩ := ofOrdinal?_spec d.year_mem d.ordinal_mem
  rw [h, ext_ordinal hy ho]

def IsInner (d : Date) : Prop := d.previous?.isSome = true ∧ d.next?.isSome = true

instance (d : Date) : Decidable d.IsInner := inferInstanceAs (Decidable (_ ∧ _))

private theorem IsInner.isSome_ofDayNumber? {d : Date} (h : d.IsInner) {k : Int}
    (hk : -1 ≤ k ∧ k ≤ 1) : (ofDayNumber? (d.dayNumber + k)).isSome = true := by
  obtain rfl | rfl | rfl : k = -1 ∨ k = 0 ∨ k = 1 := by omega
  · exact h.1
  · rw [Int.add_zero, ofDayNumber?_dayNumber]
    rfl
  · exact h.2

end Date

namespace TimeOfDay

theorem seconds_lt (t : TimeOfDay) : t.seconds < 86400 := by
  have hh := t.hour_lt
  have hm := t.minute_lt
  have hs := t.second_lt
  unfold seconds
  omega

theorem mk?_eq_some (t : TimeOfDay) : mk? t.hour t.minute t.second t.nano = some t :=
  dif_pos ⟨t.hour_lt, t.minute_lt, t.second_lt, t.nano_lt, t.leap⟩

private theorem ofSeconds?_seconds (t : TimeOfDay) : ofSeconds? t.seconds t.nano = some t := by
  have hm := t.minute_lt
  have hs := t.second_lt
  unfold ofSeconds? seconds
  have hhour : (t.hour * 3600 + t.minute * 60 + t.second) / 3600 = t.hour := by omega
  have hminute : (t.hour * 3600 + t.minute * 60 + t.second) / 60 % 60 = t.minute := by omega
  have hsecond : (t.hour * 3600 + t.minute * 60 + t.second) % 60 = t.second := by omega
  rw [hhour, hminute, hsecond, mk?_eq_some]

end TimeOfDay

namespace Moment

variable {d : Date} {t : TimeOfDay} {offset : Int}

private theorem timestamp_div (m : Moment) (k : Int) :
    (m.timestamp + k) / 86400 = m.date.dayNumber + (m.time.seconds + k) / 86400 := by
  unfold timestamp
  omega

private theorem timestamp_mod (m : Moment) (k : Int) :
    (m.timestamp + k) % 86400 = (m.time.seconds + k) % 86400 := by
  unfold timestamp
  omega

@[simp] theorem shift?_zero (m : Moment) : m.shift? 0 = some m := by
  have hs := m.time.seconds_lt
  unfold shift? ofTimestamp?
  rw [timestamp_div, timestamp_mod]
  have hdiv : ((m.time.seconds : Int) + 0) / 86400 = 0 := by omega
  have hmod : (((m.time.seconds : Int) + 0) % 86400).toNat = m.time.seconds := by omega
  rw [hdiv, hmod, Int.add_zero, Date.ofDayNumber?_dayNumber, TimeOfDay.ofSeconds?_seconds]
  rfl

theorem isSome_shift? (hd : d.IsInner) (hk : -86400 < offset ∧ offset < 86400) :
    (shift? ⟨d, t⟩ offset).isSome =
      (TimeOfDay.ofSeconds? (((t.seconds : Int) + offset) % 86400).toNat t.nano).isSome := by
  have hs := t.seconds_lt
  unfold shift? ofTimestamp?
  rw [timestamp_div, timestamp_mod]
  dsimp only
  have hspan : -1 ≤ ((t.seconds : Int) + offset) / 86400 ∧
      ((t.seconds : Int) + offset) / 86400 ≤ 1 := by
    omega
  have hday := hd.isSome_ofDayNumber? hspan
  obtain ⟨date, hdate⟩ := Option.isSome_iff_exists.1 hday
  rw [hdate]
  cases TimeOfDay.ofSeconds? (((t.seconds : Int) + offset) % 86400).toNat t.nano <;> rfl

end Moment

end FormCheck.Calendar
