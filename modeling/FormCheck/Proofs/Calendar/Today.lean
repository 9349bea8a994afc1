import Mathlib.Data.List.Basic
import FormCheck.Proofs.Calendar.Days
import FormCheck.Proofs.Calendar.Spelling

/-!
What a format check takes from the current day. Fields that give a time of day and no date are
completed by today. That is seen in the answer exactly where the format shows something of the date:
such a text is accepted on the days that are written so, and no text is written so on all days.
-/
namespace FormCheck.Calendar

/-- The time of day, where the fields give one but neither a date nor a whole moment. -/
def Fields.loneTime? (f : Fields) : Option TimeOfDay :=
  match f.moment? 0, f.date, f.time with
  | none, .error _, .ok time => some time
  | _, _, _ => none

def Item.showsDay : Item → Bool
  | .number .year _ | .number .yearOfCentury _ | .number .month _ | .number .day _
  | .number .timestamp _ | .monthName _ | .weekdayName _ => true
  | _ => false

namespace Letters

variable {d d₁ d₂ : Date} {t : TimeOfDay} {f : Fields} {i : Item} {l : Layout} {offset : Int}

private theorem localMoment?_of_loneTime? (h : f.loneTime? = some t) (today : Date) :
    localMoment? today f = some ⟨today, t⟩ := by
  unfold Fields.loneTime? at h
  unfold localMoment?
  split at h
  · next hm hd ht =>
    cases h
    rw [hm, hd, ht]
    rfl
  · cases h

private theorem localMoment?_congr (h : f.loneTime? = none) (d₁ d₂ : Date) :
    localMoment? d₁ f = localMoment? d₂ f := by
  unfold Fields.loneTime? at h
  unfold localMoment?
  cases hm : f.moment? 0 with
  | some m => rfl
  | none =>
    cases hd : f.date with
    | ok date => rfl
    | error _ =>
      cases ht : f.time with
      | error _ => rfl
      | ok time => simp [hm, hd, ht] at h

theorem write_congr (h : i.showsDay = false) (d₁ d₂ : Date) (t : TimeOfDay) (offset : Int) :
    i.write ⟨d₁, t⟩ offset = i.write ⟨d₂, t⟩ offset := by
  unfold Item.showsDay at h
  split at h
  all_goals cases h
  unfold Item.write
  split <;> simp_all

/-- Two days that no item of a date writes in the same way, nor shorter on the later one. -/
def earlyDay : Date := ⟨2001, 5, 7, by decide, by decide, by decide⟩

def lateDay : Date := ⟨2007, 10, 12, by decide, by decide, by decide⟩

private theorem length_toString_timestamp (t : TimeOfDay)
    (ho : -86400 < -offset ∧ -offset < 86400) :
    (toString ((⟨earlyDay, t⟩ : Moment).timestamp - offset)).toList.length <
      (toString ((⟨lateDay, t⟩ : Moment).timestamp - offset)).toList.length := by
  have ht := t.seconds_lt
  have hearly : earlyDay.dayNumber = 11449 := by decide +kernel
  have hlate : lateDay.dayNumber = 13798 := by decide +kernel
  unfold Moment.timestamp
  dsimp only
  rw [hearly, hlate]
  obtain ⟨a, ha⟩ := Int.eq_ofNat_of_zero_le
    (show 0 ≤ (11449 : Int) * 86400 + t.seconds - offset by omega)
  obtain ⟨b, hb⟩ := Int.eq_ofNat_of_zero_le
    (show 0 ≤ (13798 : Int) * 86400 + t.seconds - offset by omega)
  rw [ha, hb]
  have hlength (n : Nat) : (toString (n : Int)).toList = Nat.toDigits 10 n := Nat.toList_repr
  rw [hlength, hlength]
  -- Between the two days the timestamp comes to ten digits.
  have hshort : (Nat.toDigits 10 a).length ≤ 9 :=
    (Nat.length_toDigits_le_iff (by decide) (by decide)).2 (by omega)
  have hlong : ¬(Nat.toDigits 10 b).length ≤ 9 := fun h => by
    have hb' := (Nat.length_toDigits_le_iff (by decide) (by decide)).1 h
    omega
  omega

private theorem write_lateDay (h : i.showsDay = true) (t : TimeOfDay)
    (ho : -86400 < -offset ∧ -offset < 86400) :
    (i.write ⟨earlyDay, t⟩ offset).length ≤ (i.write ⟨lateDay, t⟩ offset).length ∧
      i.write ⟨earlyDay, t⟩ offset ≠ i.write ⟨lateDay, t⟩ offset := by
  unfold Item.showsDay at h
  split at h
  · next zeros => cases zeros <;> (simp only [Item.write]; decide)
  · next zeros => cases zeros <;> (simp only [Item.write]; decide)
  · next zeros => cases zeros <;> (simp only [Item.write]; decide)
  · next zeros => cases zeros <;> (simp only [Item.write]; decide)
  · have hlt := length_toString_timestamp t ho
    exact ⟨Nat.le_of_lt hlt, fun he => Nat.ne_of_lt hlt (congrArg List.length he)⟩
  · next full => cases full <;> (simp only [Item.write]; decide)
  · next full => cases full <;> (simp only [Item.write]; decide +kernel)
  · cases h

section FlatMap

variable {α : Type} {v w : α → List Char} {as : List α}

private theorem length_flatMap_le (hle : ∀ a ∈ as, (v a).length ≤ (w a).length) :
    (as.flatMap v).length ≤ (as.flatMap w).length := by
  induction as with
  | nil => exact Nat.le_refl _
  | cons a as ih =>
    have hfirst := hle a List.mem_cons_self
    have hrest := ih fun b hb => hle b (List.mem_cons_of_mem a hb)
    rw [List.flatMap_cons, List.flatMap_cons, List.length_append, List.length_append]
    omega

private theorem flatMap_ne_of_length_le (hle : ∀ a ∈ as, (v a).length ≤ (w a).length)
    (hne : ∃ a ∈ as, v a ≠ w a) : as.flatMap v ≠ as.flatMap w := by
  induction as with
  | nil => simp at hne
  | cons a as ih =>
    have hfirst := hle a List.mem_cons_self
    have hrest (b : α) (hb : b ∈ as) := hle b (List.mem_cons_of_mem a hb)
    have hlength := length_flatMap_le hrest
    rw [List.flatMap_cons, List.flatMap_cons]
    intro he
    -- Texts of one length that begin with parts of one length agree part by part.
    have hlengths := congrArg List.length he
    rw [List.length_append, List.length_append] at hlengths
    obtain ⟨ha, has⟩ := List.append_inj he (by omega)
    obtain ⟨b, hb, hvw⟩ := hne
    rcases List.mem_cons.1 hb with rfl | hb
    · exact hvw ha
    · exact ih hrest ⟨b, hb, hvw⟩ has

end FlatMap

private theorem layoutWrite_congr (h : l.any Item.showsDay = false) (d₁ d₂ : Date) (t : TimeOfDay)
    (offset : Int) : l.write ⟨d₁, t⟩ offset = l.write ⟨d₂, t⟩ offset := by
  rw [List.any_eq_false] at h
  unfold Layout.write
  congr 1
  apply List.flatMap_congr
  intro i hi
  exact write_congr (by simpa using h i hi) d₁ d₂ t offset

private theorem layoutWrite_lateDay (h : l.any Item.showsDay = true) (t : TimeOfDay)
    (ho : -86400 < -offset ∧ -offset < 86400) :
    l.write ⟨earlyDay, t⟩ offset ≠ l.write ⟨lateDay, t⟩ offset := by
  obtain ⟨i, hi, hs⟩ := List.any_eq_true.1 h
  unfold Layout.write
  rw [ne_eq, String.ofList_inj]
  apply flatMap_ne_of_length_le
  · intro j _
    cases hj : j.showsDay with
    | true => exact (write_lateDay hj t ho).1
    | false => exact Nat.le_of_eq (congrArg List.length (write_congr hj earlyDay lateDay t offset))
  · exact ⟨i, hi, (write_lateDay hs t ho).2⟩

/-- The text gives a time of day without a date in a format that shows something of the date. -/
def BorrowsDay (s format : String) : Prop :=
  ∃ f t, (items format.toList).fields? s = some f ∧ f.loneTime? = some t ∧
    (items format.toList).any Item.showsDay = true

private theorem fitsFormat_of_loneTime? {s format : String}
    (hf : (items format.toList).fields? s = some f) (ht : f.loneTime? = some t) (hd : d.IsInner) :
    fitsFormat d s format =
      ((TimeOfDay.ofSeconds? (((t.seconds : Int) + -offsetOf f) % 86400).toNat t.nano).isSome &&
        (items format.toList).write ⟨d, t⟩ (offsetOf f) == s) := by
  rw [fitsFormat_of_fields? hf, localMoment?_of_loneTime? ht, Option.any_some,
    Moment.isSome_shift? hd (offsetOf_lt f)]

private theorem fitsFormat_of_not_borrowsDay {s format : String} (h : ¬BorrowsDay s format)
    (h₁ : d₁.IsInner) (h₂ : d₂.IsInner) : fitsFormat d₁ s format = fitsFormat d₂ s format := by
  cases hf : (items format.toList).fields? s with
  | none => rw [fitsFormat_of_no_fields hf, fitsFormat_of_no_fields hf]
  | some f =>
    cases ht : f.loneTime? with
    | none =>
      rw [fitsFormat_of_fields? hf, fitsFormat_of_fields? hf, localMoment?_congr ht d₁ d₂]
    | some t =>
      have hs : (items format.toList).any Item.showsDay = false := by
        rw [← Bool.not_eq_true]
        exact fun hs => h ⟨f, t, hf, ht, hs⟩
      rw [fitsFormat_of_loneTime? hf ht h₁, fitsFormat_of_loneTime? hf ht h₂,
        layoutWrite_congr hs d₁ d₂]

private theorem isInner_earlyDay : earlyDay.IsInner := by decide

private theorem isInner_lateDay : lateDay.IsInner := by decide

private theorem exists_not_fitsFormat {s format : String} (h : BorrowsDay s format) :
    ∃ d : Date, d.IsInner ∧ fitsFormat d s format = false := by
  obtain ⟨f, t, hf, ht, hs⟩ := h
  have hne := layoutWrite_lateDay hs t (offsetOf_lt f)
  by_cases he : (items format.toList).write ⟨earlyDay, t⟩ (offsetOf f) = s
  · refine ⟨lateDay, isInner_lateDay, ?_⟩
    rw [fitsFormat_of_loneTime? hf ht isInner_lateDay]
    rw [he] at hne
    simp [hne.symm]
  · refine ⟨earlyDay, isInner_earlyDay, ?_⟩
    rw [fitsFormat_of_loneTime? hf ht isInner_earlyDay]
    simp [he]

/-- The answer is the same on all days, except for a text without a date that some day is written
as. At the ends of the calendar an offset may leave it, so the first and last day stand apart. -/
theorem fitsFormat_constant_iff (s format : String) :
    (∀ d₁ d₂ : Date, d₁.IsInner → d₂.IsInner →
      fitsFormat d₁ s format = fitsFormat d₂ s format) ↔
    ¬(BorrowsDay s format ∧ ∃ d : Date, d.IsInner ∧ fitsFormat d s format = true) := by
  constructor
  · rintro hall ⟨hb, d, hd, hfits⟩
    obtain ⟨d', hd', hrefused⟩ := exists_not_fitsFormat hb
    rw [hall d d' hd hd', hrefused] at hfits
    cases hfits
  · intro h d₁ d₂ h₁ h₂
    by_cases hb : BorrowsDay s format
    · have hfalse (d : Date) (hd : d.IsInner) : fitsFormat d s format = false := by
        rw [← Bool.not_eq_true]
        exact fun hfits => h ⟨hb, d, hd, hfits⟩
      rw [hfalse d₁ h₁, hfalse d₂ h₂]
    · exact fitsFormat_of_not_borrowsDay hb h₁ h₂

/-- A year with a time is right in that year and wrong in all others. A weekday with a time is right
on one day and wrong on the next; so are digits that read as the 31st of February and are written on
the 3rd of December. On the very first day of the calendar, an offset leaves it. -/
theorem answer_changes_overnight :
    (fitsFormat ⟨1999, 12, 31, by decide, by decide, by decide⟩ "1999 10:00" "Y H:i" = true ∧
      fitsFormat ⟨2000, 1, 1, by decide, by decide, by decide⟩ "1999 10:00" "Y H:i" = false) ∧
    (fitsFormat ⟨2024, 1, 15, by decide, by decide, by decide⟩ "Mon 10:00" "D H:i" = true ∧
      fitsFormat ⟨2024, 1, 16, by decide, by decide, by decide⟩ "Mon 10:00" "D H:i" = false) ∧
    (fitsFormat ⟨2024, 12, 3, by decide, by decide, by decide⟩ "2024-312 10:00" "Y-jn H:i" = true ∧
      fitsFormat ⟨2024, 12, 4, by decide, by decide, by decide⟩ "2024-312 10:00" "Y-jn H:i" =
        false) ∧
    (fitsFormat ⟨minYear, 1, 1, by decide, by decide, by decide⟩ "00:30 +01:00" "H:i P" = false ∧
      fitsFormat ⟨minYear, 1, 2, by decide, by decide, by decide⟩ "00:30 +01:00" "H:i P" = true) := by
  decide +kernel

end Letters

end FormCheck.Calendar
