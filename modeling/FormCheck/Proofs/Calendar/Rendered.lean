import FormCheck.Proofs.Calendar.Days
import FormCheck.Proofs.Calendar.Numbers
import FormCheck.Proofs.Calendar.Spelling

/-!
Dates written in a format and read back. In a format with the letters of a date, and of a time of day
or not, in any order with separators between them, the texts that fit are those that some moment is
written as.
-/
namespace FormCheck.Calendar

variable {m m' : Moment} {g : NumberField} {gs gs' : List NumberField} {rest : List Char}

def NumberField.value (g : NumberField) (m : Moment) : Int :=
  match g with
  | .year => m.date.year
  | .month => m.date.month
  | .day => m.date.day
  | .hour => m.time.hour
  | .minute => m.time.minute
  | .second => m.time.shownSecond
  | _ => 0

def Fields.shown (m : Moment) (gs : List NumberField) : Fields where
  year := if .year ∈ gs then some m.date.year else none
  month := if .month ∈ gs then some m.date.month else none
  day := if .day ∈ gs then some m.date.day else none
  afternoon := if .hour ∈ gs then some (decide (12 ≤ m.time.hour)) else none
  hourOfHalf := if .hour ∈ gs then some (m.time.hour % 12) else none
  minute := if .minute ∈ gs then some m.time.minute else none
  second := if .second ∈ gs then some m.time.shownSecond else none

private theorem daysInMonth_le (year : Int) (month : Nat) : daysInMonth year month ≤ 31 := by
  unfold daysInMonth
  split
  · split <;> decide
  all_goals decide

private theorem TimeOfDay.shownSecond_le (t : TimeOfDay) : t.shownSecond ≤ 60 := by
  have hs := t.second_lt
  have hn := t.nano_lt
  have hl := t.leap
  unfold shownSecond
  omega

private theorem agreeing_ite {α : Type} [DecidableEq α] {p : Prop} [Decidable p] (x : α) :
    agreeing (if p then some x else none) x = some (some x) := by
  split <;> simp [agreeing]

private theorem set_shown (hg : g ∈ plainFields) (m : Moment) (gs : List NumberField) :
    g.set (.shown m gs) (g.value m) = some (.shown m (g :: gs)) := by
  -- Every value is in the range of its field, and agrees with the one that may be there.
  rcases mem_plainFields.1 hg with rfl | rfl | rfl | rfl | rfl | rfl
  · have hy := m.date.year_mem
    unfold minYear maxYear at hy
    unfold NumberField.set NumberField.value Fields.setYear
    dsimp only
    rw [if_pos (by omega)]
    simp [Fields.shown, agreeing_ite]
  · unfold NumberField.set NumberField.value Fields.setMonth
    dsimp only
    rw [Int.toNat_natCast, if_pos m.date.month_mem]
    simp [Fields.shown, agreeing_ite]
  · have hd := m.date.day_mem
    have hlast := daysInMonth_le m.date.year m.date.month
    unfold NumberField.set NumberField.value Fields.setDay
    dsimp only
    rw [Int.toNat_natCast, if_pos (by omega)]
    simp [Fields.shown, agreeing_ite]
  · unfold NumberField.set NumberField.value Fields.setHour Fields.setAfternoon Fields.setHourOfHalf
    dsimp only
    rw [Int.toNat_natCast, if_pos m.time.hour_lt]
    simp [Fields.shown, agreeing_ite]
  · unfold NumberField.set NumberField.value Fields.setMinute
    dsimp only
    rw [Int.toNat_natCast, if_pos m.time.minute_lt]
    simp [Fields.shown, agreeing_ite]
  · unfold NumberField.set NumberField.value Fields.setSecond
    dsimp only
    rw [Int.toNat_natCast, if_pos m.time.shownSecond_le]
    simp [Fields.shown, agreeing_ite]

def Item.IsPlain (i : Item) (g : NumberField) : Prop :=
  ∃ zeros, i = .number g zeros ∧ g ∈ plainFields ∧ (g = .year → zeros = true)

private theorem value_lt (hg : g ∈ plainFields) (hy : g ≠ .year) (m : Moment) :
    0 ≤ g.value m ∧ g.value m < 100 := by
  have hm := m.date.month_mem
  have hd := m.date.day_mem
  have hlast := daysInMonth_le m.date.year m.date.month
  have hh := m.time.hour_lt
  have hi := m.time.minute_lt
  have hs := m.time.shownSecond_le
  rcases mem_plainFields.1 hg with rfl | rfl | rfl | rfl | rfl | rfl
  · contradiction
  all_goals
    unfold NumberField.value
    dsimp only
    omega

private theorem write_plain (hg : g ∈ plainFields) (hy : g ≠ .year) (m : Moment) (zeros : Bool)
    (offset : Int) : (Item.number g zeros).write m offset =
      padded (if zeros then 2 else 1) (g.value m).toNat := by
  rcases mem_plainFields.1 hg with rfl | rfl | rfl | rfl | rfl | rfl
  · contradiction
  all_goals rfl

private theorem write_year (m : Moment) (offset : Int) :
    (Item.number .year true).write m offset = yearText m.date.year := by
  unfold Item.write
  simp

private theorem scan_year (hr : Stops rest) (d : Date) :
    NumberField.year.scan (yearText d.year ++ rest) = some (d.year, rest) := by
  have hy := d.year_mem
  unfold minYear maxYear at hy
  unfold yearText
  split
  · next h =>
    obtain ⟨c, cs, hc, hd⟩ := padded_eq_cons 4 d.year.toNat
    have hs : scanNumber 1 4 (padded 4 d.year.toNat ++ rest) = some (d.year.toNat, rest) :=
      scanNumber_padded (Nat.le_refl 4) (by decide) (by omega) (by omega) hr
    rw [hc, List.cons_append] at hs ⊢
    rw [scan_year_of_isDigit hd, hs, Option.map_some]
    dsimp only
    rw [Int.toNat_of_nonneg h.1]
  · have hs : scanLongNumber 1 (padded 4 d.year.natAbs ++ rest) = some (d.year.natAbs, rest) :=
      scanLongNumber_padded (by omega) hr
    rw [List.cons_append]
    split
    · have hn : -(d.year.natAbs : Int) = d.year := by omega
      rw [scan_year_minus, hs, Option.map_some]
      dsimp only
      rw [hn]
    · have hn : (d.year.natAbs : Int) = d.year := by omega
      rw [scan_year_plus, hs, Option.map_some]
      dsimp only
      rw [hn]

def Unblanked (s : List Char) : Prop := ∀ c ∈ s.head?, Text.isBlank c = false

theorem Unblanked.trimStart (h : Unblanked rest) : Text.trimStart rest = rest :=
  Text.dropWhile_eq_self (Text.any_eq_false_of_forall h)

private theorem unblanked_padded (width n : Nat) (rest : List Char) :
    Unblanked (padded width n ++ rest) := by
  obtain ⟨c, cs, hc, hd⟩ := padded_eq_cons width n
  rw [hc]
  rintro _ ⟨rfl⟩
  exact Decimal.isBlank_of_isDigit hd

private theorem unblanked_yearText (year : Int) (rest : List Char) :
    Unblanked (yearText year ++ rest) := by
  unfold yearText
  split
  · exact unblanked_padded 4 _ rest
  · split
    · rintro _ ⟨rfl⟩
      rfl
    · rintro _ ⟨rfl⟩
      rfl

namespace Item.IsPlain

variable {i : Item}

private theorem unblanked (h : i.IsPlain g) (m : Moment) (offset : Int) (rest : List Char) :
    Unblanked (i.write m offset ++ rest) := by
  obtain ⟨zeros, rfl, hg, hz⟩ := h
  by_cases hy : g = .year
  · subst hy
    rw [hz rfl, write_year]
    exact unblanked_yearText _ rest
  · rw [write_plain hg hy]
    exact unblanked_padded _ _ rest

private theorem scan_write (h : i.IsPlain g) (m : Moment) (offset : Int) (gs : List NumberField)
    (hr : Stops rest) :
    i.scan (.shown m gs) (i.write m offset ++ rest) = some (.shown m (g :: gs), rest) := by
  have hb := (h.unblanked m offset rest).trimStart
  obtain ⟨zeros, rfl, hg, hz⟩ := h
  have hread : g.scan ((Item.number g zeros).write m offset ++ rest) = some (g.value m, rest) := by
    by_cases hy : g = .year
    · subst hy
      rw [hz rfl, write_year]
      exact scan_year hr m.date
    · have hv := value_lt hg hy m
      rw [write_plain hg hy, scan_of_short hg hy,
        scanNumber_padded (by split <;> decide) (by decide) (by omega) (by omega) hr,
        Option.map_some]
      dsimp only
      rw [Int.toNat_of_nonneg hv.1]
  unfold Item.scan
  dsimp only
  rw [hb, hread]
  simp only [Option.bind_eq_bind, Option.bind_some, set_shown hg]
  rfl

theorem write_congr (h : i.IsPlain g) (hv : g.value m' = g.value m) (offset offset' : Int) :
    i.write m' offset = i.write m offset' := by
  obtain ⟨zeros, rfl, hg, hz⟩ := h
  by_cases hy : g = .year
  · subst hy
    have hyear : m'.date.year = m.date.year := hv
    rw [hz rfl, write_year, write_year, hyear]
  · rw [write_plain hg hy, write_plain hg hy, hv]

end Item.IsPlain

private theorem date_shown (m : Moment) (hy : .year ∈ gs) (hm : .month ∈ gs) (hd : .day ∈ gs) :
    (Fields.shown m gs).date = .ok m.date := by
  simp [Fields.date, Fields.resolveYear, Fields.holdsDate, Fields.shown, hy, hm, hd, pure,
    Except.pure, bind, Except.bind]

private theorem time_shown_of_not_mem (m : Moment) (h : .hour ∉ gs) :
    (Fields.shown m gs).time = .error .insufficient := by
  simp [Fields.time, Fields.shown, h]

private theorem time_eq_of_shown {f : Fields} {t : TimeOfDay}
    (hhalf : f.afternoon = some (decide (12 ≤ t.hour))) (hhour : f.hourOfHalf = some (t.hour % 12))
    (hminute : f.minute = some t.minute) (hsecond : f.second.getD 0 = t.shownSecond)
    (hnano : f.nano = none) (hwhole : t.shownNano = 0) : f.time = .ok t := by
  have hlt := t.second_lt
  have hle := t.nano_lt
  have hleap := t.leap
  have hdial : (t.hour % 12 + if decide (12 ≤ t.hour) then 12 else 0) = t.hour := by
    have hh := t.hour_lt
    simp only [decide_eq_true_eq]
    split <;> omega
  unfold TimeOfDay.shownNano at hwhole
  unfold Fields.time
  rw [hhalf, hhour, hminute, hsecond, hnano]
  dsimp only [pure, Except.pure, bind, Except.bind]
  have hmk (p : Nat × Nat) (hp : p = (t.second, t.nano)) :
      TimeOfDay.mk? t.hour t.minute p.1 (p.2 + 0) = some t := by
    rw [hp]
    exact TimeOfDay.mk?_eq_some t
  rw [hdial, hmk]
  split
  · next h60 =>
    -- Only the last second of a minute is shown as sixty.
    unfold TimeOfDay.shownSecond at h60
    rw [Prod.mk.injEq]
    omega
  · next s h60 =>
    have hs : t.shownSecond ≠ 60 := h60
    unfold TimeOfDay.shownSecond at hs ⊢
    rw [Prod.mk.injEq]
    omega

def TimeOfDay.cut (t : TimeOfDay) (seconds : Bool) : TimeOfDay :=
  if seconds then
    ⟨t.hour, t.minute, t.second, t.nano / 1000000000 * 1000000000, t.hour_lt, t.minute_lt,
      t.second_lt, by have := t.nano_lt; omega, by have := t.leap; omega⟩
  else
    ⟨t.hour, t.minute, 0, 0, t.hour_lt, t.minute_lt, midnight.second_lt, midnight.nano_lt,
      midnight.leap⟩

private theorem time_shown (m : Moment) (hh : .hour ∈ gs) (hm : .minute ∈ gs) :
    (Fields.shown m gs).time = .ok (m.time.cut (decide (.second ∈ gs))) := by
  apply time_eq_of_shown
  · by_cases hs : .second ∈ gs <;> simp [Fields.shown, TimeOfDay.cut, hh, hs]
  · by_cases hs : .second ∈ gs <;> simp [Fields.shown, TimeOfDay.cut, hh, hs]
  · by_cases hs : .second ∈ gs <;> simp [Fields.shown, TimeOfDay.cut, hm, hs]
  · by_cases hs : .second ∈ gs <;> simp [Fields.shown, TimeOfDay.cut, TimeOfDay.shownSecond, hs]
  · rfl
  · by_cases hs : .second ∈ gs <;> simp [TimeOfDay.cut, TimeOfDay.shownNano, hs]

namespace Letters

def separators : List Char := ['-', '/', '.', ':', ' ']

def dateLetters : List Char := ['Y', 'm', 'n', 'd', 'j', 'H', 'G', 'i', 's']

def letterField : Char → NumberField
  | 'Y' => .year
  | 'm' | 'n' => .month
  | 'd' | 'j' => .day
  | 'H' | 'G' => .hour
  | 'i' => .minute
  | _ => .second

variable {sep : List Char} {f : Fields} {l : Layout}

private theorem item_separator {c : Char} (h : c ∈ separators) :
    c = ' ' ∧ item c = .blank c ∨ Text.isBlank c = false ∧ item c = .char c := by
  simp only [separators, List.mem_cons, List.not_mem_nil, or_false] at h
  rcases h with rfl | rfl | rfl | rfl | rfl
  all_goals first | exact .inl ⟨rfl, rfl⟩ | exact .inr ⟨rfl, rfl⟩

/-- Separators are passed over. A blank passes over those behind it as well, and these are content
with none. -/
private theorem scan_separators (hsep : ∀ c ∈ sep, c ∈ separators) (hr : Unblanked rest)
    {s : List Char} (hs : s = sep ++ rest ∨ s = Text.trimStart (sep ++ rest)) :
    Layout.scan (sep.map item ++ l) f s = Layout.scan l f rest := by
  -- Behind a blank the induction goes on with a text whose blanks are gone already.
  induction sep generalizing s with
  | nil =>
    rw [List.nil_append, hr.trimStart, or_self] at hs
    rw [hs]
    rfl
  | cons c sep ih =>
    have hrest := fun d hd => hsep d (List.mem_cons_of_mem c hd)
    rw [List.map_cons, List.cons_append, Layout.scan]
    rcases item_separator (hsep c List.mem_cons_self) with ⟨hc, hi⟩ | ⟨hc, hi⟩
    · have hblank : Text.isBlank c = true := by rw [hc]; rfl
      have htrim : Text.trimStart (c :: (sep ++ rest)) = Text.trimStart (sep ++ rest) :=
        List.dropWhile_cons_of_pos hblank
      have hst : Text.trimStart s = Text.trimStart (sep ++ rest) := by
        rcases hs with rfl | rfl
        · exact htrim
        · rw [List.cons_append, htrim]
          exact List.dropWhile_idempotent _ _
      rw [hi]
      exact ih hrest (.inr hst)
    · have htrim : Text.trimStart (c :: (sep ++ rest)) = c :: (sep ++ rest) :=
        Unblanked.trimStart (by rintro _ ⟨rfl⟩; exact hc)
      have hst : s = c :: (sep ++ rest) := by
        rcases hs with rfl | rfl
        · rfl
        · exact htrim
      have hscan : (Item.char c).scan f s = some (f, sep ++ rest) := by
        rw [hst]
        simp [Item.scan, scanChar]
      rw [hi, hscan]
      exact ih hrest (.inl rfl)

private theorem write_separators (hsep : ∀ c ∈ sep, c ∈ separators) (m : Moment) (offset : Int) :
    (sep.map item).flatMap (fun i => i.write m offset) = sep := by
  induction sep with
  | nil => rfl
  | cons c sep ih =>
    have hc : (item c).write m offset = [c] := by
      rcases item_separator (hsep c List.mem_cons_self) with ⟨-, hi⟩ | ⟨-, hi⟩ <;> rw [hi] <;> rfl
    rw [List.map_cons, List.flatMap_cons, hc, ih fun d hd => hsep d (List.mem_cons_of_mem c hd)]
    rfl

private theorem isPlain_item {c : Char} (h : c ∈ dateLetters) :
    (item c).IsPlain (letterField c) := by
  simp only [dateLetters, List.mem_cons, List.not_mem_nil, or_false] at h
  rcases h with rfl | rfl | rfl | rfl | rfl | rfl | rfl | rfl | rfl
  all_goals exact ⟨_, rfl, by decide, by decide⟩

/-- A letter with the separators in front of it. -/
structure Part where
  separators : List Char
  letter : Char

namespace Part

variable {ps : List Part}

def text (p : Part) : List Char := p.separators ++ [p.letter]

def field (p : Part) : NumberField := letterField p.letter

def write (p : Part) (m : Moment) : List Char := p.separators ++ (item p.letter).write m 0

structure IsGood (p : Part) : Prop where
  separated : p.separators ≠ []
  separators_mem : ∀ c ∈ p.separators, c ∈ Letters.separators
  letter_mem : p.letter ∈ dateLetters

private theorem stops_write (hp : ∀ p ∈ ps, p.IsGood) (m : Moment) :
    Stops (ps.flatMap fun p => p.write m) := by
  cases ps with
  | nil => exact stops_nil
  | cons p ps =>
    have hgood := hp p List.mem_cons_self
    rw [List.flatMap_cons]
    unfold write
    cases hs : p.separators with
    | nil => exact absurd hs hgood.separated
    | cons c cs =>
      have hc := hgood.separators_mem c (by rw [hs]; exact List.mem_cons_self)
      have hdigit : ∀ c ∈ Letters.separators, c.isDigit = false := by simp [Letters.separators]
      exact stops_cons (hdigit c hc) _

private theorem scan_write (hp : ∀ p ∈ ps, p.IsGood) (m : Moment) (gs : List NumberField) :
    Layout.scan (ps.flatMap fun p => p.text.map item) (.shown m gs)
        (ps.flatMap fun p => p.write m) =
      some (.shown m ((ps.map field).reverse ++ gs)) := by
  induction ps generalizing gs with
  | nil => rfl
  | cons p ps ih =>
    have hgood := hp p List.mem_cons_self
    have hrest := fun q hq => hp q (List.mem_cons_of_mem p hq)
    have hplain := isPlain_item hgood.letter_mem
    have htext : p.text.map item = p.separators.map item ++ [item p.letter] := List.map_append
    have hwrite : p.write m = p.separators ++ (item p.letter).write m 0 := rfl
    rw [List.flatMap_cons, List.flatMap_cons, htext, hwrite, List.append_assoc, List.append_assoc,
      scan_separators hgood.separators_mem (hplain.unblanked m 0 _) (.inl rfl),
      List.singleton_append, Layout.scan, hplain.scan_write m 0 gs (stops_write hrest m)]
    simp only [Option.bind_eq_bind, Option.bind_some]
    rw [ih hrest, List.map_cons, List.reverse_cons, List.append_assoc, List.singleton_append]
    rfl

end Part

/-- The fields of a whole date, and of a time of day that has hour and minute, or of none. -/
structure IsWhole (gs : List NumberField) : Prop where
  plain : ∀ g ∈ gs, g ∈ plainFields
  date : .year ∈ gs ∧ .month ∈ gs ∧ .day ∈ gs
  clock : .hour ∈ gs ↔ .minute ∈ gs
  second : .second ∈ gs → .hour ∈ gs

theorem IsWhole.congr (h : IsWhole gs) (hgs : ∀ g, g ∈ gs' ↔ g ∈ gs) : IsWhole gs' where
  plain g hg := h.plain g ((hgs g).1 hg)
  date := by simpa only [hgs] using h.date
  clock := by simpa only [hgs] using h.clock
  second := by simpa only [hgs] using h.second

private theorem localMoment?_shown (today : Date) (m : Moment) (h : IsWhole gs) :
    ∃ m', localMoment? today (.shown m gs) = some m' ∧ ∀ g ∈ gs, g.value m' = g.value m := by
  have hdate := date_shown m h.date.1 h.date.2.1 h.date.2.2
  have hstamp : (Fields.shown m gs).timestamp = none := rfl
  unfold localMoment? Fields.moment?
  rw [hdate]
  by_cases hh : .hour ∈ gs
  · rw [time_shown m hh (h.clock.1 hh), hstamp]
    refine ⟨_, rfl, fun g hmem => ?_⟩
    rcases mem_plainFields.1 (h.plain g hmem) with rfl | rfl | rfl | rfl | rfl | rfl
    · rfl
    · rfl
    · rfl
    · by_cases hs : .second ∈ gs <;> simp [NumberField.value, TimeOfDay.cut, hs]
    · by_cases hs : .second ∈ gs <;> simp [NumberField.value, TimeOfDay.cut, hs]
    · simp [NumberField.value, TimeOfDay.cut, TimeOfDay.shownSecond, hmem]
  · rw [time_shown_of_not_mem m hh, hstamp]
    refine ⟨_, rfl, fun g hmem => ?_⟩
    rcases mem_plainFields.1 (h.plain g hmem) with rfl | rfl | rfl | rfl | rfl | rfl
    · rfl
    · rfl
    · rfl
    · exact absurd hmem hh
    · exact absurd (h.clock.2 hmem) hh
    · exact absurd (h.second hmem) hh

def clocks : List (List Char) := [[], ['H', 'i'], ['G', 'i'], ['H', 'i', 's'], ['G', 'i', 's']]

/-- The letters of a date and of a time of day or none, once each and in any order, with separators
between every two of them. -/
structure IsDateFormat (format : String) (first : Char) (parts : List Part) : Prop where
  text_eq : format = String.ofList (first :: parts.flatMap Part.text)
  separated : ∀ p ∈ parts, p.separators ≠ [] ∧ ∀ c ∈ p.separators, c ∈ separators
  letters : ∃ month ∈ ['m', 'n'], ∃ day ∈ ['d', 'j'], ∃ clock ∈ clocks,
    (first :: parts.map Part.letter).Perm ('Y' :: month :: day :: clock)

/-- What a moment of universal time is written as in a format. -/
def render? (format : String) (m : Moment) : Option String :=
  (Layout.read? (spell format.toList)).map fun l => l.write m 0

private theorem render?_eq (format : String) (m : Moment) :
    render? format m = some ((items format.toList).write m 0) := by
  rw [render?, read?_spell, Option.map_some]

namespace IsDateFormat

variable {format : String} {first : Char} {parts : List Part}

private theorem letter_mem (h : IsDateFormat format first parts) :
    ∀ c ∈ first :: parts.map Part.letter, c ∈ dateLetters := by
  obtain ⟨month, hm, day, hd, clock, hc, hperm⟩ := h.letters
  have hall : (['m', 'n'].all fun month => ['d', 'j'].all fun day => clocks.all fun clock =>
      decide ('Y' :: month :: day :: clock ⊆ dateLetters)) = true := by decide
  simp only [List.all_eq_true, decide_eq_true_eq] at hall
  exact fun c hmem => hall month hm day hd clock hc (hperm.mem_iff.1 hmem)

private theorem isGood (h : IsDateFormat format first parts) : ∀ p ∈ parts, p.IsGood := by
  intro p hp
  obtain ⟨hne, hs⟩ := h.separated p hp
  exact ⟨hne, hs, h.letter_mem _ (List.mem_cons_of_mem _ (List.mem_map_of_mem hp))⟩

private theorem isWhole (h : IsDateFormat format first parts) :
    IsWhole ((parts.map Part.field).reverse ++ [letterField first]) := by
  obtain ⟨month, hm, day, hd, clock, hc, hperm⟩ := h.letters
  have hall : (['m', 'n'].all fun month => ['d', 'j'].all fun day => clocks.all fun clock =>
      let gs := ('Y' :: month :: day :: clock).map letterField
      decide ((∀ g ∈ gs, g ∈ plainFields) ∧ (.year ∈ gs ∧ .month ∈ gs ∧ .day ∈ gs) ∧
        (.hour ∈ gs ↔ .minute ∈ gs) ∧ (.second ∈ gs → .hour ∈ gs))) = true := by decide
  simp only [List.all_eq_true, decide_eq_true_eq] at hall
  obtain ⟨hplain, hdate, hclock, hsecond⟩ := hall month hm day hd clock hc
  refine IsWhole.congr ⟨hplain, hdate, hclock, hsecond⟩ fun g => ?_
  rw [← (hperm.map letterField).mem_iff, List.map_cons, List.map_map, List.mem_append,
    List.mem_reverse, List.mem_singleton, List.mem_cons, or_comm]
  rfl

private theorem items_eq (h : IsDateFormat format first parts) :
    items format.toList = item first :: parts.flatMap fun p => p.text.map item := by
  have hnot : '\\' ∉ first :: parts.flatMap Part.text := by
    intro hmem
    rcases List.mem_cons.1 hmem with hc | hmem
    · exact absurd (h.letter_mem _ (List.mem_cons.2 (.inl hc))) (by decide)
    · obtain ⟨p, hp, hc⟩ := List.mem_flatMap.1 hmem
      have hgood := h.isGood p hp
      rcases List.mem_append.1 hc with hc | hc
      · exact absurd (hgood.separators_mem _ hc) (by decide)
      · rw [List.mem_singleton] at hc
        exact absurd hgood.letter_mem (by rw [← hc]; decide)
  rw [h.text_eq, String.toList_ofList, items_of_not_mem hnot, List.map_cons, List.map_flatMap]

private theorem mem_items (h : IsDateFormat format first parts) {i : Item}
    (hi : i ∈ items format.toList) :
    (∃ c, i = .char c ∨ i = .blank c) ∨
      ∃ g ∈ (parts.map Part.field).reverse ++ [letterField first], i.IsPlain g := by
  rw [h.items_eq] at hi
  rcases List.mem_cons.1 hi with rfl | hi
  · exact .inr ⟨_, by simp, isPlain_item (h.letter_mem first List.mem_cons_self)⟩
  · obtain ⟨p, hp, hi⟩ := List.mem_flatMap.1 hi
    obtain ⟨c, hc, rfl⟩ := List.mem_map.1 hi
    have hgood := h.isGood p hp
    rcases List.mem_append.1 hc with hc | hc
    · rcases item_separator (hgood.separators_mem c hc) with ⟨-, hi⟩ | ⟨-, hi⟩
      · exact .inl ⟨c, .inr hi⟩
      · exact .inl ⟨c, .inl hi⟩
    · rw [List.mem_singleton] at hc
      subst hc
      refine .inr ⟨p.field, ?_, isPlain_item hgood.letter_mem⟩
      rw [List.mem_append, List.mem_reverse]
      exact .inl (List.mem_map_of_mem hp)

theorem write_congr (h : IsDateFormat format first parts) {m m' : Moment} (offset offset' : Int)
    (hm : ∀ g ∈ (parts.map Part.field).reverse ++ [letterField first], g.value m' = g.value m) :
    (items format.toList).write m' offset = (items format.toList).write m offset' := by
  unfold Layout.write
  congr 1
  apply List.flatMap_congr
  intro i hi
  rcases h.mem_items hi with ⟨c, rfl | rfl⟩ | ⟨g, hg, hplain⟩
  · rfl
  · rfl
  · exact hplain.write_congr (hm g hg) offset offset'

private theorem toList_write (h : IsDateFormat format first parts) (m : Moment) :
    ((items format.toList).write m 0).toList =
      (item first).write m 0 ++ parts.flatMap fun p => p.write m := by
  rw [Layout.write, String.toList_ofList, h.items_eq, List.flatMap_cons, List.flatMap_assoc]
  congr 1
  apply List.flatMap_congr
  intro p hp
  rw [Part.text, List.map_append, List.flatMap_append,
    write_separators (h.isGood p hp).separators_mem, List.map_singleton, List.flatMap_singleton]
  rfl

private theorem fields?_write (h : IsDateFormat format first parts) (m : Moment) :
    (items format.toList).fields? ((items format.toList).write m 0) =
      some (.shown m ((parts.map Part.field).reverse ++ [letterField first])) := by
  have hplain := isPlain_item (h.letter_mem first List.mem_cons_self)
  have hnone : ({} : Fields) = .shown m [] := rfl
  unfold Layout.fields?
  rw [h.toList_write, h.items_eq, Layout.scan, hnone,
    hplain.scan_write m 0 [] (Part.stops_write h.isGood m)]
  simp only [Option.bind_eq_bind, Option.bind_some]
  exact Part.scan_write h.isGood m _

private theorem fitsFormat_write (h : IsDateFormat format first parts) (today : Date) (m : Moment) :
    fitsFormat today ((items format.toList).write m 0) format = true := by
  obtain ⟨m', hm', hsame⟩ := localMoment?_shown today m h.isWhole
  rw [fitsFormat_of_fields? (h.fields?_write m), hm', Option.any_some, Bool.and_eq_true,
    beq_iff_eq]
  exact ⟨by rw [show -offsetOf _ = 0 from rfl, Moment.shift?_zero]; rfl,
    h.write_congr _ 0 hsame⟩

/-- A text fits a format of a date exactly if it is what some moment is written as in it. -/
theorem fitsFormat_iff_rendered (h : IsDateFormat format first parts) :
    (∀ m, (render? format m).isSome = true) ∧
    ∀ today s, fitsFormat today s format = true ↔ ∃ m, render? format m = some s := by
  refine ⟨fun m => by rw [render?_eq]; rfl, fun today s => ⟨fun hfits => ?_, ?_⟩⟩
  · cases hf : (items format.toList).fields? s with
    | none =>
      rw [fitsFormat_of_no_fields hf] at hfits
      cases hfits
    | some f =>
      rw [fitsFormat_of_fields? hf] at hfits
      obtain ⟨m, -, hm⟩ := (Option.any_eq_true _ _).1 hfits
      rw [Bool.and_eq_true, beq_iff_eq] at hm
      refine ⟨m, ?_⟩
      rw [render?_eq, ← hm.2]
      exact congrArg some (h.write_congr 0 (offsetOf f) fun _ _ => rfl)
  · rintro ⟨m, hm⟩
    rw [render?_eq, Option.some.injEq] at hm
    rw [← hm]
    exact h.fitsFormat_write today m

/-- Single digits for day and month, the year last, two separators in a row: a leap second fits, and
what no moment is written as does not. -/
theorem fitsFormat_iff_rendered_with_clock :
    IsDateFormat "j. n. Y  H:i:s" 'j' [⟨['.', ' '], 'n'⟩, ⟨['.', ' '], 'Y'⟩, ⟨[' ', ' '], 'H'⟩,
      ⟨[':'], 'i'⟩, ⟨[':'], 's'⟩] ∧
    (∀ today, fitsFormat today "29. 2. 2024  23:59:60" "j. n. Y  H:i:s" = true) ∧
    ∀ m, render? "j. n. Y  H:i:s" m ≠ some "30. 2. 2024  10:00:00" := by
  have h : IsDateFormat "j. n. Y  H:i:s" 'j' [⟨['.', ' '], 'n'⟩, ⟨['.', ' '], 'Y'⟩,
      ⟨[' ', ' '], 'H'⟩, ⟨[':'], 'i'⟩, ⟨[':'], 's'⟩] :=
    { text_eq := by decide
      separated := by simp [separators]
      letters := ⟨'n', by decide, 'j', by decide, ['H', 'i', 's'], by decide, by decide⟩ }
  refine ⟨h, fun today => ?_, fun m hm => ?_⟩
  · apply ((fitsFormat_iff_rendered h).2 today _).2
    exact ⟨⟨⟨2024, 2, 29, by decide, by decide, by decide⟩,
      ⟨23, 59, 59, 1000000000, by decide, by decide, by decide, by decide, by decide⟩⟩,
      by decide +kernel⟩
  · have hfits := ((fitsFormat_iff_rendered h).2 ⟨2024, 1, 1, by decide, by decide, by decide⟩ _).2
      ⟨m, hm⟩
    revert hfits
    decide +kernel

end IsDateFormat

end Letters

end FormCheck.Calendar
