import FormCheck.Proofs.Calendar.Numbers
import FormCheck.Proofs.Text.Ascii

/-!
What layouts leave of a text besides digits, blanks and signs. Numbers and blanks are silent: the
colons, slashes, commas, points and letters of a text come from the layout alone, so two layouts that
count differently read no text both.
-/
namespace FormCheck.Calendar

/-- The kinds of characters that numbers and blanks have none of. -/
inductive Mark where
  | colon
  | slash
  | comma
  | point
  | letter
  deriving DecidableEq

namespace Mark

def holds (k : Mark) (c : Char) : Bool :=
  match k with
  | colon => c == ':'
  | slash => c == '/'
  | comma => c == ','
  | point => c == '.'
  | letter => c.isAlpha

def all : List Mark := [colon, slash, comma, point, letter]

variable {k : Mark} {c : Char} {s rest : List Char}

private theorem toNat_of_holds (h : k.holds c = true) :
    (44 ≤ c.toNat ∧ c.toNat ≤ 58 ∧ c.toNat ≠ 45 ∧ (c.toNat < 48 ∨ 57 < c.toNat)) ∨
      (65 ≤ c.toNat ∧ c.toNat ≤ 90) ∨ (97 ≤ c.toNat ∧ c.toNat ≤ 122) := by
  cases k with
  | letter => exact .inr (Text.isAlpha_iff.1 h)
  | _ =>
    obtain rfl := beq_iff_eq.1 h
    decide

def IsSilent (c : Char) : Prop :=
  c.isDigit = true ∨ Text.isBlank c = true ∨ c = '+' ∨ c = '-'

theorem holds_of_isSilent (h : IsSilent c) (k : Mark) : k.holds c = false := by
  rw [← Bool.not_eq_true]
  intro hk
  have hn := toNat_of_holds hk
  rcases h with h | h | rfl | rfl
  · have hc := Text.isDigit_iff.1 h
    omega
  · unfold Text.isBlank at h
    simp only [Bool.or_eq_true, Bool.and_eq_true, decide_eq_true_eq, beq_iff_eq] at h
    omega
  · revert hn
    decide
  · revert hn
    decide

def count (k : Mark) (s : List Char) : Nat := s.countP k.holds

private theorem count_append (k : Mark) (s t : List Char) :
    k.count (s ++ t) = k.count s + k.count t :=
  List.countP_append

private theorem count_cons (k : Mark) (c : Char) (s : List Char) :
    k.count (c :: s) = k.count s + if k.holds c then 1 else 0 :=
  List.countP_cons

private theorem count_of_silent (h : ∀ c ∈ s, IsSilent c) (k : Mark) : k.count s = 0 := by
  apply List.countP_eq_zero.2
  intro c hc
  rw [holds_of_isSilent (h c hc)]
  decide

private theorem count_trimStart (k : Mark) (s : List Char) :
    k.count (Text.trimStart s) = k.count s := by
  have hs : s = s.takeWhile Text.isBlank ++ Text.trimStart s := List.takeWhile_append_dropWhile.symm
  have hb : ∀ c ∈ s.takeWhile Text.isBlank, IsSilent c := fun c hc =>
    .inr (.inl (List.mem_takeWhile_imp hc))
  have hc := congrArg k.count hs
  rw [count_append, count_of_silent hb] at hc
  omega

private theorem count_scanNumber {least most n : Nat} (h : scanNumber least most s = some (n, rest))
    (k : Mark) : k.count rest = k.count s := by
  rw [(scanNumber_eq_some h).1, count_append,
    count_of_silent fun c hc => .inl (isDigit_of_mem_takeDigits c hc), Nat.zero_add]

end Mark

variable {k : Mark} {s rest : List Char} {f f' : Fields}

open Mark (count_cons count_append count_trimStart count_scanNumber count_of_silent)

private theorem count_numberScan {g : NumberField} {n : Int} (h : g.scan s = some (n, rest))
    (k : Mark) : k.count rest = k.count s := by
  unfold NumberField.scan at h
  dsimp only at h
  have hsign (c : Char) (hc : c = '+' ∨ c = '-') (s : List Char) : k.count (c :: s) = k.count s := by
    rw [count_cons, Mark.holds_of_isSilent (.inr (.inr hc))]
    rfl
  split at h
  · obtain ⟨p, hp, he⟩ := Option.map_eq_some_iff.1 h
    cases he
    rw [hsign _ (.inr rfl)]
    exact count_scanNumber hp k
  · obtain ⟨p, hp, he⟩ := Option.map_eq_some_iff.1 h
    cases he
    rw [hsign _ (.inl rfl)]
    exact count_scanNumber hp k
  · obtain ⟨p, hp, he⟩ := Option.map_eq_some_iff.1 h
    cases he
    exact count_scanNumber hp k

def Item.fewest (k : Mark) : Item → Nat
  | .char c => if k.holds c then 1 else 0
  | .monthName _ => if k = .letter then 3 else 0
  | _ => 0

def Item.most (k : Mark) : Item → Nat
  | .char c => if k.holds c then 1 else 0
  | .monthName _ => if k = .letter then 9 else 0
  | .pointFraction => if k = .point then 1 else 0
  | _ => 0

def Item.isCommon : Item → Bool
  | .char _ | .blank _ | .number _ _ | .monthName _ | .pointFraction => true
  | _ => false

theorem scanWord_eq_some {word : List Char} (h : scanWord word s = some rest) :
    ∃ w, s = w ++ rest ∧ w.map Char.toLower = word := by
  unfold scanWord at h
  split at h
  · next hw =>
    cases h
    exact ⟨s.take word.length, (List.take_append_drop _ _).symm, hw⟩
  · cases h

private theorem count_scanWord {word : List Char} (hw : word.all Char.isAlpha = true)
    (h : scanWord word s = some rest) (k : Mark) :
    k.count s = (if k = .letter then word.length else 0) + k.count rest := by
  obtain ⟨w, rfl, hlower⟩ := scanWord_eq_some h
  have halpha : ∀ c ∈ w, c.isAlpha = true := by
    intro c hc
    apply Text.isAlpha_of_toLower (List.all_eq_true.1 hw _ _)
    rw [← hlower]
    exact List.mem_map_of_mem hc
  rw [count_append, ← hlower, List.length_map]
  congr 1
  cases k with
  | letter => exact List.countP_eq_length.2 halpha
  | _ =>
    apply List.countP_eq_zero.2
    intro c hc hmark
    have hn := Text.isAlpha_iff.1 (halpha c hc)
    obtain rfl := beq_iff_eq.1 hmark
    revert hn
    decide

theorem monthWords :
    ∀ p ∈ monthNames.zipIdx,
      let short := (shortName p.1).map Char.toLower
      let rest := (p.1.toList.drop 3).map Char.toLower
      (short.all Char.isAlpha = true ∧ short.length = 3) ∧
        rest.all Char.isAlpha = true ∧ rest.length ≤ 6 ∧ monthNames[p.2]? = some p.1 := by
  decide

private theorem scanShortName_eq_some {i : Nat} (h : scanShortName monthNames s = some (i, rest)) :
    ∃ name, (name, i) ∈ monthNames.zipIdx ∧
      scanWord ((shortName name).map Char.toLower) s = some rest := by
  unfold scanShortName at h
  obtain ⟨⟨name, j⟩, hmem, hword⟩ := List.exists_of_findSome?_eq_some h
  obtain ⟨r, hr, he⟩ := Option.map_eq_some_iff.1 hword
  cases he
  exact ⟨name, hmem, hr⟩

theorem scanName_eq_some {i : Nat} (h : scanName monthNames s = some (i, rest)) :
    ∃ short, scanShortName monthNames s = some (i, short) ∧
      (rest = short ∨ ∃ name, (name, i) ∈ monthNames.zipIdx ∧
        scanWord ((name.toList.drop 3).map Char.toLower) short = some rest) := by
  unfold scanName at h
  simp only [Option.bind_eq_bind, Option.bind_eq_some_iff] at h
  obtain ⟨⟨j, short⟩, hshort, name, hname, he⟩ := h
  obtain ⟨name', hmem, -⟩ := scanShortName_eq_some hshort
  obtain rfl : name' = name := by
    have hwords := (monthWords _ hmem).2.2.2
    rw [hname] at hwords
    exact (Option.some.inj hwords).symm
  cases he
  refine ⟨short, hshort, ?_⟩
  cases hw : scanWord ((name'.toList.drop 3).map Char.toLower) short with
  | none => exact .inl rfl
  | some r => exact .inr ⟨name', hmem, hw⟩

private theorem count_scanShortName {i : Nat} (h : scanShortName monthNames s = some (i, rest))
    (k : Mark) : k.count s = (if k = .letter then 3 else 0) + k.count rest := by
  obtain ⟨name, hmem, hw⟩ := scanShortName_eq_some h
  obtain ⟨⟨halpha, hlength⟩, -⟩ := monthWords _ hmem
  rw [count_scanWord halpha hw, hlength]

private theorem count_scanName {i : Nat} (h : scanName monthNames s = some (i, rest)) (k : Mark) :
    (if k = .letter then 3 else 0) + k.count rest ≤ k.count s ∧
      k.count s ≤ (if k = .letter then 9 else 0) + k.count rest := by
  obtain ⟨short, hshort, hrest⟩ := scanName_eq_some h
  have hs := count_scanShortName hshort k
  rcases hrest with rfl | ⟨name, hmem, hw⟩
  · split_ifs at hs ⊢ <;> omega
  · obtain ⟨-, halpha, hlength, -⟩ := monthWords _ hmem
    have hr := count_scanWord halpha hw k
    split_ifs at hs hr ⊢ <;> omega

private theorem count_scanFraction {n : Nat} (h : scanFraction s = some (n, rest)) (k : Mark) :
    k.count rest = k.count s := by
  unfold scanFraction at h
  simp only [Option.bind_eq_bind, Option.bind_eq_some_iff] at h
  obtain ⟨⟨m, r⟩, hr, he⟩ := h
  cases he
  dsimp only
  have hd : ∀ c ∈ r.takeWhile Char.isDigit, Mark.IsSilent c := fun c hc =>
    .inl (List.mem_takeWhile_imp hc)
  have hsplit := congrArg k.count
    (List.takeWhile_append_dropWhile (p := Char.isDigit) (l := r))
  rw [count_append, count_of_silent hd, Nat.zero_add] at hsplit
  rw [hsplit, count_scanNumber hr k]

private theorem scanChar_eq_some {c : Char} (h : scanChar c s = some rest) : s = c :: rest := by
  unfold scanChar at h
  split at h
  · split at h
    · next hc =>
      cases h
      rw [hc]
    · cases h
  · cases h

namespace Item

theorem scan_char_eq_some {c : Char} (h : (Item.char c).scan f s = some (f', rest)) :
    s = c :: rest ∧ f' = f := by
  obtain ⟨r, hr, he⟩ := Option.map_eq_some_iff.1 h
  cases he
  exact ⟨scanChar_eq_some hr, rfl⟩

theorem scan_number_eq_some {g : NumberField} {zeros : Bool}
    (h : (Item.number g zeros).scan f s = some (f', rest)) :
    ∃ n, g.scan (Text.trimStart s) = some (n, rest) ∧ g.set f n = some f' := by
  simp only [Item.scan, Option.bind_eq_bind, Option.bind_eq_some_iff] at h
  obtain ⟨⟨n, r⟩, hn, f₁, hset, he⟩ := h
  cases he
  exact ⟨n, hn, hset⟩

theorem scan_monthName_eq_some {full : Bool}
    (h : (Item.monthName full).scan f s = some (f', rest)) :
    ∃ i, (if full then scanName else scanShortName) monthNames s = some (i, rest) ∧
      f.setMonth (i + 1) = some f' := by
  simp only [Item.scan, Option.bind_eq_bind, Option.bind_eq_some_iff] at h
  obtain ⟨⟨i, r⟩, hi, f₁, hset, he⟩ := h
  cases he
  exact ⟨i, hi, hset⟩

end Item

theorem Layout.scan_cons_eq_some {i : Item} {l : Layout} (h : Layout.scan (i :: l) f s = some f') :
    ∃ f₁ rest, i.scan f s = some (f₁, rest) ∧ l.scan f₁ rest = some f' := by
  simp only [Layout.scan, Option.bind_eq_bind, Option.bind_eq_some_iff] at h
  obtain ⟨⟨f₁, rest⟩, hi, hl⟩ := h
  exact ⟨f₁, rest, hi, hl⟩

theorem Layout.scan_nil_eq_some (h : Layout.scan [] f s = some f') : s = [] ∧ f = f' := by
  unfold Layout.scan at h
  split at h
  · next hs =>
    cases h
    exact ⟨List.isEmpty_iff.1 hs, rfl⟩
  · cases h

/-- An item reads as many marks of each kind as it allows. -/
private theorem count_itemScan {i : Item} (hi : i.isCommon = true)
    (h : i.scan f s = some (f', rest)) (k : Mark) :
    i.fewest k + k.count rest ≤ k.count s ∧ k.count s ≤ i.most k + k.count rest := by
  cases i with
  | char c =>
    obtain ⟨rfl, -⟩ := Item.scan_char_eq_some h
    unfold Item.fewest Item.most
    rw [count_cons]
    dsimp only
    omega
  | blank c =>
    cases h
    rw [count_trimStart]
    unfold Item.fewest Item.most
    dsimp only
    omega
  | number g zeros =>
    obtain ⟨n, hn, -⟩ := Item.scan_number_eq_some h
    have hr := count_numberScan hn k
    rw [count_trimStart] at hr
    unfold Item.fewest Item.most
    dsimp only
    omega
  | monthName full =>
    obtain ⟨i, hi, -⟩ := Item.scan_monthName_eq_some h
    cases full with
    | true => exact count_scanName hi k
    | false =>
      have hr := count_scanShortName hi k
      unfold Item.fewest Item.most
      dsimp only
      split_ifs at hr ⊢ <;> omega
  | pointFraction =>
    simp only [Item.scan] at h
    split at h
    · simp only [Option.bind_eq_bind, Option.bind_eq_some_iff] at h
      obtain ⟨⟨n, r⟩, hn, f₁, -, he⟩ := h
      cases he
      have hr := count_scanFraction hn k
      have hpoint : k.holds '.' = true ↔ k = .point := by cases k <;> decide
      unfold Item.fewest Item.most
      rw [count_cons]
      dsimp only
      simp only [hpoint, hr]
      omega
    · cases h
      unfold Item.fewest Item.most
      dsimp only
      omega
  | _ => cases hi

private theorem count_layoutScan {l : Layout} (hl : l.all Item.isCommon = true)
    (h : Layout.scan l f s = some f') (k : Mark) :
    (l.map (Item.fewest k)).sum ≤ k.count s ∧ k.count s ≤ (l.map (Item.most k)).sum := by
  induction l generalizing f s with
  | nil =>
    rw [(Layout.scan_nil_eq_some h).1]
    exact ⟨Nat.le_refl _, Nat.le_refl _⟩
  | cons i l ih =>
    rw [List.all_cons, Bool.and_eq_true] at hl
    obtain ⟨f₁, r, hi, hr⟩ := Layout.scan_cons_eq_some h
    have hfirst := count_itemScan hl.1 hi k
    have hrest := ih hl.2 hr
    rw [List.map_cons, List.map_cons, List.sum_cons, List.sum_cons]
    omega

def Layout.marksMeet (l l' : Layout) : Bool :=
  Mark.all.all fun k =>
    (l.map (Item.fewest k)).sum ≤ (l'.map (Item.most k)).sum &&
      (l'.map (Item.fewest k)).sum ≤ (l.map (Item.most k)).sum

theorem marksMeet_of_fields? {l l' : Layout} {t : String} (hl : l.all Item.isCommon = true)
    (hl' : l'.all Item.isCommon = true) (h : l.fields? t = some f) (h' : l'.fields? t = some f') :
    l.marksMeet l' = true := by
  unfold Layout.marksMeet
  apply List.all_eq_true.2
  intro k _
  have hc := count_layoutScan hl h k
  have hc' := count_layoutScan hl' h' k
  rw [Bool.and_eq_true, decide_eq_true_iff, decide_eq_true_iff]
  omega

end FormCheck.Calendar
