import Mathlib.Data.List.Basic
import FormCheck.Calendar.Layout
import FormCheck.Proofs.Text.Ascii

/-!
The syntax of layout texts. A specifier is a per cent sign, a mark of padding, modifiers and a letter;
all other characters stand for themselves. A text is cut into such pieces in one way at most, and a
layout is read from it if and only if it can be cut and every piece is known.
-/
namespace FormCheck.Calendar

structure Specifier where
  padding : Option Char
  modifiers : List Char
  letter : Char
  deriving DecidableEq

namespace Specifier

def paddings : List Char := ['-', '_', '0']

def isModifier (c : Char) : Bool :=
  c == ':' || c == '.' || c == '#' || (c.isDigit && c != '0')

def isLast (c : Char) : Bool :=
  c.isAlpha || c == '%' || c == '+'

/-- The shape of a specifier, known or not. -/
structure IsWellFormed (s : Specifier) : Prop where
  padding : ∀ c ∈ s.padding, c ∈ paddings
  modifiers : ∀ c ∈ s.modifiers, isModifier c = true
  letter : isLast s.letter = true

theorem IsWellFormed.of_all {s : Specifier} (h : (s.padding.all (paddings.contains ·) &&
    s.modifiers.all isModifier && isLast s.letter) = true) : s.IsWellFormed := by
  simp only [Bool.and_eq_true, Option.all_eq_true, List.all_eq_true, List.contains_iff_mem] at h
  exact ⟨h.1.1, h.1.2, h.2⟩

def marks (s : Specifier) : List Char := s.padding.toList ++ s.modifiers

def text (s : Specifier) : List Char := '%' :: (s.marks ++ [s.letter])

def modified : List (Char × Char × Item) :=
  [(':', 'z', .offset true), ('.', 'f', .pointFraction), ('3', 'f', .fraction 3),
    ('6', 'f', .fraction 6), ('9', 'f', .fraction 9)]

def item? (s : Specifier) : Option Item :=
  match s.padding, s.modifiers with
  | none, [] => Item.ofLetter? false s.letter
  | some p, [] => if p = '-' then Item.ofLetter? true s.letter else none
  | none, [m] => (modified.find? fun e => e.1 == m && e.2.1 == s.letter).map (·.2.2)
  | _, _ => none

variable {s t : Specifier} {c : Char} {i : Item} {rest rest' : List Char}

private theorem isModifier_of_mem_paddings (h : c ∈ paddings) : isModifier c = false := by
  simp only [paddings, List.mem_cons, List.not_mem_nil, or_false] at h
  rcases h with rfl | rfl | rfl <;> decide

private theorem isLast_of_mem_paddings (h : c ∈ paddings) : isLast c = false := by
  simp only [paddings, List.mem_cons, List.not_mem_nil, or_false] at h
  rcases h with rfl | rfl | rfl <;> decide

private theorem isLast_of_isDigit (h : c.isDigit = true) : isLast c = false := by
  have hn := Text.isDigit_iff.1 h
  have hpercent : c ≠ '%' := by
    rintro rfl
    revert hn
    decide
  have hplus : c ≠ '+' := by
    rintro rfl
    revert hn
    decide
  simp [isLast, Text.isAlpha_of_isDigit h, hpercent, hplus]

private theorem isLast_of_isModifier (h : isModifier c = true) : isLast c = false := by
  simp only [isModifier, Bool.or_eq_true, Bool.and_eq_true, beq_iff_eq] at h
  rcases h with ((rfl | rfl) | rfl) | ⟨hd, -⟩
  · decide
  · decide
  · decide
  · exact isLast_of_isDigit hd

private theorem IsWellFormed.isLast_of_mem_marks (h : s.IsWellFormed) :
    ∀ c ∈ s.marks, isLast c = false := by
  intro c hc
  rcases List.mem_append.1 hc with hp | hm
  · exact isLast_of_mem_paddings (h.padding c (Option.mem_toList.1 hp))
  · exact isLast_of_isModifier (h.modifiers c hm)

private theorem IsWellFormed.eq_of_marks (hs : s.IsWellFormed) (ht : t.IsWellFormed)
    (hmarks : s.marks = t.marks) (hletter : s.letter = t.letter) : s = t := by
  obtain ⟨p, ms, c⟩ := s
  obtain ⟨q, ns, d⟩ := t
  unfold marks at hmarks
  have hdisjoint {x : Char} {xs : List Char} (hx : x ∈ paddings)
      (hxs : ∀ c ∈ xs, isModifier c = true) : x ∉ xs := fun hm => by
    have hmodifier := hxs x hm
    rw [isModifier_of_mem_paddings hx] at hmodifier
    cases hmodifier
  cases p with
  | none =>
    cases q with
    | none => simp_all
    | some y =>
      obtain rfl : ms = y :: ns := hmarks
      exact absurd List.mem_cons_self (hdisjoint (ht.padding y rfl) hs.modifiers)
  | some x =>
    cases q with
    | none =>
      obtain rfl : x :: ms = ns := hmarks
      exact absurd List.mem_cons_self (hdisjoint (hs.padding x rfl) ht.modifiers)
    | some y => simp_all

private theorem IsWellFormed.text_append_inj (hs : s.IsWellFormed) (ht : t.IsWellFormed)
    (h : s.text ++ rest = t.text ++ rest') : s = t ∧ rest = rest' := by
  have hcut (s : Specifier) (hs : s.IsWellFormed) (rest : List Char) :
      (s.marks ++ s.letter :: rest).takeWhile (fun c => !isLast c) = s.marks := by
    rw [List.takeWhile_append_of_pos, List.takeWhile_cons_of_neg, List.append_nil]
    · simp [hs.letter]
    · intro c hc
      rw [hs.isLast_of_mem_marks c hc]
      rfl
  simp only [text, List.cons_append, List.append_assoc, List.nil_append, List.cons.injEq,
    true_and] at h
  have hmarks : s.marks = t.marks := by
    rw [← hcut s hs rest, h, hcut t ht rest']
  rw [hmarks] at h
  obtain ⟨hletter, hrest⟩ := List.cons.inj (List.append_cancel_left h)
  exact ⟨hs.eq_of_marks ht hmarks hletter, hrest⟩

end Specifier

inductive Piece where
  | literal (c : Char)
  | specifier (s : Specifier)
  deriving DecidableEq

namespace Piece

def text : Piece → List Char
  | literal c => [c]
  | specifier s => s.text

def IsWellFormed : Piece → Prop
  | literal c => c ≠ '%'
  | specifier s => s.IsWellFormed

def item? : Piece → Option Item
  | literal c => some (.literal c)
  | specifier s => s.item?

variable {p q : Piece} {i : Item} {rest rest' : List Char}

private theorem IsWellFormed.text_append_inj (hp : p.IsWellFormed) (hq : q.IsWellFormed)
    (h : p.text ++ rest = q.text ++ rest') : p = q ∧ rest = rest' := by
  cases p with
  | literal c =>
    cases q with
    | literal d =>
      obtain ⟨rfl, rfl⟩ := List.cons.inj h
      exact ⟨rfl, rfl⟩
    | specifier t => exact absurd (List.cons.inj h).1 hp
  | specifier s =>
    cases q with
    | literal d => exact absurd (List.cons.inj h).1.symm hq
    | specifier t =>
      obtain ⟨rfl, rfl⟩ := Specifier.IsWellFormed.text_append_inj hp hq h
      exact ⟨rfl, rfl⟩

private theorem text_ne_nil (p : Piece) : p.text ≠ [] := by
  cases p <;> simp [text, Specifier.text]

end Piece

structure Cut (s : List Char) (ps : List Piece) : Prop where
  wellFormed : ∀ p ∈ ps, p.IsWellFormed
  text_eq : ps.flatMap Piece.text = s

variable {s rest : List Char} {p : Piece} {ps qs : List Piece} {c : Char} {i : Item} {l : Layout}

theorem Cut.nil : Cut [] [] := ⟨nofun, rfl⟩

theorem Cut.cons (hp : p.IsWellFormed) (h : Cut s ps) : Cut (p.text ++ s) (p :: ps) where
  wellFormed := List.forall_mem_cons.2 ⟨hp, h.wellFormed⟩
  text_eq := by rw [List.flatMap_cons, h.text_eq]

theorem Cut.unique (h : Cut s ps) (h' : Cut s qs) : ps = qs := by
  induction ps generalizing s qs with
  | nil =>
    cases qs with
    | nil => rfl
    | cons q qs =>
      have hs := h'.text_eq.trans h.text_eq.symm
      exact absurd (List.append_eq_nil_iff.1 hs).1 q.text_ne_nil
  | cons p ps ih =>
    obtain ⟨hp, hps⟩ := List.forall_mem_cons.1 h.wellFormed
    cases qs with
    | nil =>
      have hs := h.text_eq.trans h'.text_eq.symm
      exact absurd (List.append_eq_nil_iff.1 hs).1 p.text_ne_nil
    | cons q qs =>
      obtain ⟨hq, hqs⟩ := List.forall_mem_cons.1 h'.wellFormed
      obtain ⟨rfl, hrest⟩ := hp.text_append_inj hq (h.text_eq.trans h'.text_eq.symm)
      rw [ih ⟨hps, rfl⟩ ⟨hqs, hrest.symm⟩]

private theorem Layout.read?_dash (h : Item.ofLetter? true c = some i) (rest : List Char) :
    Layout.read? ('%' :: '-' :: c :: rest) = (Layout.read? rest).map (i :: ·) := by
  rw [Layout.read?, h]
  cases Layout.read? rest <;> rfl

private theorem Layout.read?_letter (h : Item.ofLetter? false c = some i) (rest : List Char) :
    Layout.read? ('%' :: c :: rest) = (Layout.read? rest).map (i :: ·) := by
  -- The characters that go on behind the sign are no items.
  have hne {d : Char} (hd : Item.ofLetter? false d = none) : c ≠ d := by
    rintro rfl
    rw [hd] at h
    cases h
  rw [Layout.read?, h]
  · cases Layout.read? rest <;> rfl
  · exact fun _ _ hc _ => hne rfl hc
  · exact fun _ hc _ => hne rfl hc
  · exact fun _ hc _ => hne rfl hc
  · exact fun _ hc _ => hne rfl hc
  · exact fun _ hc _ => hne rfl hc
  · exact fun _ hc _ => hne rfl hc

private theorem Layout.read?_literal (h : c ≠ '%') (rest : List Char) :
    Layout.read? (c :: rest) = (Layout.read? rest).map (.literal c :: ·) := by
  rw [Layout.read?]
  all_goals simp [h]

private theorem Layout.read?_modified {m : Char} (h : (m, c, i) ∈ Specifier.modified)
    (rest : List Char) :
    Layout.read? ('%' :: m :: c :: rest) = (Layout.read? rest).map (i :: ·) := by
  simp only [Specifier.modified, List.mem_cons, List.not_mem_nil, or_false, Prod.mk.injEq] at h
  rcases h with ⟨rfl, rfl, rfl⟩ | ⟨rfl, rfl, rfl⟩ | ⟨rfl, rfl, rfl⟩ | ⟨rfl, rfl, rfl⟩ |
    ⟨rfl, rfl, rfl⟩ <;> rfl

private theorem Piece.IsWellFormed.read?_append (hp : p.IsWellFormed) (h : p.item? = some i)
    (rest : List Char) : Layout.read? (p.text ++ rest) = (Layout.read? rest).map (i :: ·) := by
  cases p with
  | literal c =>
    cases h
    exact Layout.read?_literal hp rest
  | specifier s =>
    obtain ⟨padding, modifiers, c⟩ := s
    match padding, modifiers with
    | none, [] => exact Layout.read?_letter h rest
    | some p, [] =>
      obtain ⟨rfl, hi⟩ : p = '-' ∧ Item.ofLetter? true c = some i := by
        simpa [item?, Specifier.item?] using h
      exact Layout.read?_dash hi rest
    | none, [m] =>
      obtain ⟨⟨m', c', i'⟩, hfind, rfl⟩ := Option.map_eq_some_iff.1 h
      have hmem := List.mem_of_find?_eq_some hfind
      obtain ⟨rfl, rfl⟩ : m' = m ∧ c' = c := by simpa using List.find?_some hfind
      exact Layout.read?_modified hmem rest
    | none, _ :: _ :: _ | some _, _ :: _ => cases h

/-- The text can be cut into pieces that are the items of the layout. -/
def Spells (s : List Char) (l : Layout) : Prop :=
  ∃ ps, Cut s ps ∧ ps.mapM Piece.item? = some l

theorem Spells.cons (hp : p.IsWellFormed) (hi : p.item? = some i) (h : Spells s l) :
    Spells (p.text ++ s) (i :: l) := by
  obtain ⟨ps, hcut, hitems⟩ := h
  refine ⟨p :: ps, .cons hp hcut, ?_⟩
  rw [List.mapM_cons, hi, hitems]
  rfl

private theorem isLast_of_ofLetter? {dash : Bool} (h : Item.ofLetter? dash c = some i) :
    Specifier.isLast c = true := by
  cases dash
  all_goals
    dsimp only [Item.ofLetter?] at h
    split at h
    all_goals first | decide | cases h

private theorem spells_of_read? (h : Layout.read? s = some l) : Spells s l := by
  have hmodified (m c : Char) (hm : Specifier.isModifier m = true)
      (hc : Specifier.isLast c = true) : (Specifier.mk none [m] c).IsWellFormed :=
    ⟨nofun, by simpa using hm, hc⟩
  -- The cases are the items in the order in which they are tried; the last is a literal.
  fun_induction Layout.read? s generalizing l with
  | case1 =>
    cases h
    exact ⟨[], .nil, rfl⟩
  | case2 c cs ih =>
    simp only [Option.bind_eq_bind, Option.bind_eq_some_iff] at h
    obtain ⟨i, hi, l', hl, he⟩ := h
    cases he
    exact .cons (p := .specifier ⟨some '-', [], c⟩)
      ⟨by simp [Specifier.paddings], nofun, isLast_of_ofLetter? hi⟩ hi (ih hl)
  | case3 cs ih =>
    obtain ⟨l', hl, rfl⟩ := Option.map_eq_some_iff.1 h
    exact .cons (p := .specifier ⟨none, [':'], 'z'⟩) (hmodified _ _ rfl rfl) rfl (ih hl)
  | case4 cs ih =>
    obtain ⟨l', hl, rfl⟩ := Option.map_eq_some_iff.1 h
    exact .cons (p := .specifier ⟨none, ['.'], 'f'⟩) (hmodified _ _ rfl rfl) rfl (ih hl)
  | case5 cs ih =>
    obtain ⟨l', hl, rfl⟩ := Option.map_eq_some_iff.1 h
    exact .cons (p := .specifier ⟨none, ['3'], 'f'⟩) (hmodified _ _ rfl rfl) rfl (ih hl)
  | case6 cs ih =>
    obtain ⟨l', hl, rfl⟩ := Option.map_eq_some_iff.1 h
    exact .cons (p := .specifier ⟨none, ['6'], 'f'⟩) (hmodified _ _ rfl rfl) rfl (ih hl)
  | case7 cs ih =>
    obtain ⟨l', hl, rfl⟩ := Option.map_eq_some_iff.1 h
    exact .cons (p := .specifier ⟨none, ['9'], 'f'⟩) (hmodified _ _ rfl rfl) rfl (ih hl)
  | case8 c cs _ _ _ _ _ _ ih =>
    simp only [Option.bind_eq_bind, Option.bind_eq_some_iff] at h
    obtain ⟨i, hi, l', hl, he⟩ := h
    cases he
    exact .cons (p := .specifier ⟨none, [], c⟩) ⟨nofun, nofun, isLast_of_ofLetter? hi⟩ hi (ih hl)
  | case9 => cases h
  | case10 c cs _ _ _ _ _ _ hletter hend ih =>
    obtain ⟨l', hl, rfl⟩ := Option.map_eq_some_iff.1 h
    refine .cons (p := .literal c) ?_ rfl (ih hl)
    -- A per cent sign would have begun a specifier.
    rintro rfl
    cases cs with
    | nil => exact hend rfl rfl
    | cons d cs => exact hletter d cs rfl rfl

/-- A layout is read from a text if and only if the text can be cut into its items. -/
theorem Layout.read?_eq_some_iff : Layout.read? s = some l ↔ Spells s l := by
  constructor
  · exact spells_of_read?
  · rintro ⟨ps, hcut, hitems⟩
    induction ps generalizing s l with
    | nil =>
      cases hitems
      rw [← hcut.text_eq]
      rfl
    | cons p ps ih =>
      obtain ⟨hp, hps⟩ := List.forall_mem_cons.1 hcut.wellFormed
      simp only [List.mapM_cons, Option.bind_eq_bind, Option.bind_eq_some_iff] at hitems
      obtain ⟨i, hi, l', hl, he⟩ := hitems
      cases he
      rw [← hcut.text_eq, List.flatMap_cons, hp.read?_append hi, ih ⟨hps, rfl⟩ hl]
      rfl

end FormCheck.Calendar
