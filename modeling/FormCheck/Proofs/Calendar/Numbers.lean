import FormCheck.Calendar.Layout
import FormCheck.Proofs.Decimal.Whole

/-!
Numbers of a moment in decimal digits. A number that is written, with zeros in front or without, is
read back as it was, up to whatever stands behind it that is no digit.
-/
namespace FormCheck.Calendar

open FormCheck.Decimal (natOfDigits)

def Stops (s : List Char) : Prop := ∀ c ∈ s.head?, c.isDigit = false

theorem stops_nil : Stops [] := by simp [Stops]

theorem stops_cons {c : Char} (h : c.isDigit = false) (s : List Char) : Stops (c :: s) := by
  rintro d ⟨rfl⟩
  exact h

variable {digits rest : List Char} {width least most n : Nat}

theorem Stops.takeWhile_take (h : Stops rest) (k : Nat) :
    (rest.take k).takeWhile Char.isDigit = [] := by
  cases rest with
  | nil => rw [List.take_nil, List.takeWhile_nil]
  | cons c cs =>
    cases k with
    | zero => rfl
    | succ k =>
      have hc := h c rfl
      rw [List.take_succ_cons, List.takeWhile_cons, hc]
      rfl

theorem isDigit_of_mem_takeDigits {s : List Char} : ∀ c ∈ takeDigits most s, c.isDigit = true :=
  fun _ hc => List.mem_takeWhile_imp hc

private theorem length_takeDigits_le (most : Nat) (s : List Char) :
    (takeDigits most s).length ≤ most := by
  unfold takeDigits
  have h : _ ≤ (s.take most).length := (List.takeWhile_prefix Char.isDigit).length_le
  rw [List.length_take] at h
  omega

private theorem takeDigits_append_drop (most : Nat) (s : List Char) :
    takeDigits most s ++ s.drop (takeDigits most s).length = s :=
  List.prefix_iff_eq_append.1 ((List.takeWhile_prefix _).trans (List.take_prefix _ _))

theorem scanNumber_eq_some {s : List Char} (h : scanNumber least most s = some (n, rest)) :
    s = takeDigits most s ++ rest ∧ n = natOfDigits (takeDigits most s) ∧
      least ≤ (takeDigits most s).length := by
  unfold scanNumber at h
  dsimp only at h
  split at h
  · cases h
  · cases h
    exact ⟨(takeDigits_append_drop most s).symm, rfl, by omega⟩

private theorem takeDigits_append (hd : ∀ c ∈ digits, c.isDigit = true) (hr : Stops rest)
    (hl : digits.length ≤ most) : takeDigits most (digits ++ rest) = digits := by
  unfold takeDigits
  rw [List.take_append, List.take_of_length_le hl, List.takeWhile_append_of_pos hd,
    hr.takeWhile_take, List.append_nil]

private theorem scanNumber_append (hd : ∀ c ∈ digits, c.isDigit = true) (hr : Stops rest)
    (hl : least ≤ digits.length ∧ digits.length ≤ most)
    (hn : natOfDigits digits ≤ 9223372036854775807) :
    scanNumber least most (digits ++ rest) = some (natOfDigits digits, rest) := by
  unfold scanNumber
  dsimp only
  rw [takeDigits_append hd hr hl.2, if_neg (by omega), List.drop_left]

private theorem scanLongNumber_append (hd : ∀ c ∈ digits, c.isDigit = true) (hr : Stops rest)
    (hl : least ≤ digits.length) (hn : natOfDigits digits ≤ 9223372036854775807) :
    scanLongNumber least (digits ++ rest) = some (natOfDigits digits, rest) := by
  unfold scanLongNumber
  exact scanNumber_append hd hr ⟨hl, by rw [List.length_append]; omega⟩ hn

private theorem isDigit_of_mem_padded : ∀ c ∈ padded width n, c.isDigit = true := by
  intro c hc
  rcases List.mem_append.1 hc with h | h
  · rw [List.eq_of_mem_replicate h]
    rfl
  · exact Decimal.isDigit_of_mem_toDigits n c h

private theorem natOfDigits_padded (width n : Nat) : natOfDigits (padded width n) = n := by
  unfold padded
  dsimp only
  generalize width - (Nat.toDigits 10 n).length = zeros
  induction zeros with
  | zero => exact Decimal.natOfDigits_toDigits n
  | succ zeros ih =>
    rw [List.replicate_succ, List.cons_append]
    exact ih

private theorem length_padded_pos (width n : Nat) : 1 ≤ (padded width n).length := by
  have h := Nat.length_toDigits_pos (b := 10) (n := n)
  unfold padded
  rw [List.length_append]
  omega

private theorem length_padded_le (hw : width ≤ most) (hm : 0 < most) (hn : n < 10 ^ most) :
    (padded width n).length ≤ most := by
  have h := (Nat.length_toDigits_le_iff (b := 10) (by decide) hm).2 hn
  unfold padded
  dsimp only
  rw [List.length_append, List.length_replicate]
  omega

theorem padded_eq_cons (width n : Nat) :
    ∃ c cs, padded width n = c :: cs ∧ c.isDigit = true := by
  have hp := length_padded_pos width n
  cases h : padded width n with
  | nil => rw [h] at hp; cases hp
  | cons c cs => exact ⟨c, cs, rfl, isDigit_of_mem_padded c (by rw [h]; exact List.mem_cons_self)⟩

theorem scanNumber_padded (hw : width ≤ most) (hm : 0 < most) (hn : n < 10 ^ most)
    (hb : n ≤ 9223372036854775807) (hr : Stops rest) :
    scanNumber 1 most (padded width n ++ rest) = some (n, rest) := by
  have h := scanNumber_append isDigit_of_mem_padded hr
    ⟨length_padded_pos width n, length_padded_le hw hm hn⟩ (by rwa [natOfDigits_padded])
  rwa [natOfDigits_padded] at h

theorem scanLongNumber_padded (hb : n ≤ 9223372036854775807) (hr : Stops rest) :
    scanLongNumber 1 (padded width n ++ rest) = some (n, rest) := by
  have h := scanLongNumber_append isDigit_of_mem_padded hr (length_padded_pos width n)
    (by rwa [natOfDigits_padded])
  rwa [natOfDigits_padded] at h

def plainFields : List NumberField := [.year, .month, .day, .hour, .minute, .second]

variable {g : NumberField}

theorem mem_plainFields : g ∈ plainFields ↔
    g = .year ∨ g = .month ∨ g = .day ∨ g = .hour ∨ g = .minute ∨ g = .second := by
  simp [plainFields]

theorem scan_year_of_isDigit {c : Char} {cs : List Char} (h : c.isDigit = true) :
    NumberField.year.scan (c :: cs) =
      (scanNumber 1 4 (c :: cs)).map fun (n, s) => ((n : Int), s) := by
  unfold NumberField.scan NumberField.shape
  dsimp only
  split
  · next heq => cases heq; simp at h
  · next heq => cases heq; simp at h
  · rfl

theorem scan_year_minus (s : List Char) :
    NumberField.year.scan ('-' :: s) = (scanLongNumber 1 s).map fun (n, s) => (-(n : Int), s) := rfl

theorem scan_year_plus (s : List Char) :
    NumberField.year.scan ('+' :: s) = (scanLongNumber 1 s).map fun (n, s) => ((n : Int), s) := rfl

theorem scan_of_short (hg : g ∈ plainFields) (hy : g ≠ .year) (s : List Char) :
    g.scan s = (scanNumber 1 2 s).map fun (n, s) => ((n : Int), s) := by
  rcases mem_plainFields.1 hg with rfl | rfl | rfl | rfl | rfl | rfl
  · contradiction
  all_goals rfl

theorem scan_year_eq_short {s rest' : List Char} {a b : Int} (hg : g ∈ plainFields) (hy : g ≠ .year)
    (hr : Stops rest') (h : NumberField.year.scan s = some (a, rest))
    (h' : g.scan s = some (b, rest')) : rest = rest' ∧ a = b ∧ 0 ≤ b := by
  rw [scan_of_short hg hy] at h'
  obtain ⟨⟨k, r⟩, hk, he⟩ := Option.map_eq_some_iff.1 h'
  cases he
  obtain ⟨hs, hn, hlength⟩ := scanNumber_eq_some hk
  have hd := fun c (hc : c ∈ takeDigits 2 s) => isDigit_of_mem_takeDigits c hc
  have hmost := length_takeDigits_le 2 s
  generalize takeDigits 2 s = ds at *
  subst hs
  cases ds with
  | nil => simp at hlength
  | cons c cs =>
    rw [List.cons_append, scan_year_of_isDigit (hd c List.mem_cons_self), ← List.cons_append] at h
    obtain ⟨⟨k', r'⟩, hk', he⟩ := Option.map_eq_some_iff.1 h
    cases he
    obtain ⟨hs', hn', -⟩ := scanNumber_eq_some hk'
    rw [takeDigits_append hd hr (by omega)] at hs' hn'
    have hrest := List.append_cancel_left hs'
    exact ⟨hrest.symm, by rw [hn, hn'], by omega⟩

end FormCheck.Calendar
