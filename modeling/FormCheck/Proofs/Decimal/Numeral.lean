import FormCheck.Value
import FormCheck.Proofs.Decimal.Whole
import FormCheck.Proofs.Pattern.Digits
import FormCheck.Proofs.Text.Ascii
import FormCheck.Proofs.Text.Blank

/-!
Texts that are numbers. The grammar of decimal literals is stated over any class of digits, since a
text may first be matched against the literals of more digits than are read in the end. What is read
is exactly the literal in the ten digits of ASCII between blanks, and it is never NaN.
-/
namespace FormCheck

namespace Decimal

def IsRun (digit : Char → Bool) (s : List Char) : Prop :=
  s ≠ [] ∧ ∀ c ∈ s, digit c = true

def IsSign (s : List Char) : Prop :=
  s = [] ∨ s = ['+'] ∨ s = ['-']

/-- Digits with at most one point behind them or among them, or a point and digits. -/
inductive IsMantissa (digit : Char → Bool) : List Char → Prop where
  | whole {w : List Char} : IsRun digit w → IsMantissa digit w
  | pointed {w f : List Char} : IsRun digit w → (∀ c ∈ f, digit c = true) →
      IsMantissa digit (w ++ '.' :: f)
  | fraction {f : List Char} : IsRun digit f → IsMantissa digit ('.' :: f)

inductive IsExponent (digit : Char → Bool) : List Char → Prop where
  | absent : IsExponent digit []
  | marked {c : Char} {sign ds : List Char} : c = 'e' ∨ c = 'E' → IsSign sign → IsRun digit ds →
      IsExponent digit (c :: (sign ++ ds))

inductive IsNumeral (digit : Char → Bool) : List Char → Prop where
  | mk {sign m e : List Char} : IsSign sign → IsMantissa digit m → IsExponent digit e →
      IsNumeral digit (sign ++ (m ++ e))

variable {digit digit' : Char → Bool} {s rest sign m e w : List Char}

section Mono

variable (hd : ∀ c, digit c = true → digit' c = true)
include hd

private theorem IsRun.mono (h : IsRun digit s) : IsRun digit' s :=
  ⟨h.1, fun c hc => hd c (h.2 c hc)⟩

private theorem IsNumeral.mono (h : IsNumeral digit s) : IsNumeral digit' s := by
  obtain ⟨hs, hm, he⟩ := h
  refine ⟨hs, ?_, ?_⟩
  · cases hm with
    | whole hw => exact .whole (hw.mono hd)
    | pointed hw hf => exact .pointed (hw.mono hd) fun c hc => hd c (hf c hc)
    | fraction hf => exact .fraction (hf.mono hd)
  · cases he with
    | absent => exact .absent
    | marked hc hsign hds => exact .marked hc hsign (hds.mono hd)

end Mono

def BeginsNumber (digit : Char → Bool) (s : List Char) : Prop :=
  ∃ c cs, s = c :: cs ∧ (digit c = true ∨ c = '.')

private theorem IsRun.beginsNumber (h : IsRun digit w) (rest : List Char) :
    BeginsNumber digit (w ++ rest) := by
  obtain ⟨hne, hd⟩ := h
  cases w with
  | nil => contradiction
  | cons c cs => exact ⟨c, cs ++ rest, rfl, .inl (hd c List.mem_cons_self)⟩

private theorem IsMantissa.beginsNumber (h : IsMantissa digit m) (rest : List Char) :
    BeginsNumber digit (m ++ rest) := by
  cases h with
  | whole hw => exact hw.beginsNumber rest
  | pointed hw _ =>
    rw [List.append_assoc]
    exact hw.beginsNumber _
  | fraction _ => exact ⟨'.', _, rfl, .inr rfl⟩

private theorem takeSign_append (hsign : digit '+' = false ∧ digit '-' = false) (hs : IsSign sign)
    (h : BeginsNumber digit rest) : ∃ negative, takeSign (sign ++ rest) = (negative, rest) := by
  rcases hs with rfl | rfl | rfl
  · obtain ⟨c, cs, rfl, hc⟩ := h
    refine ⟨false, ?_⟩
    rw [List.nil_append]
    unfold takeSign
    split
    · next heq => cases heq; simp [hsign.2] at hc
    · next heq => cases heq; simp [hsign.1] at hc
    · rfl
  · exact ⟨false, rfl⟩
  · exact ⟨true, rfl⟩

private theorem exists_sign (s : List Char) : ∃ sign, IsSign sign ∧ s = sign ++ (takeSign s).2 := by
  unfold takeSign
  split
  · exact ⟨['-'], .inr (.inr rfl), rfl⟩
  · exact ⟨['+'], .inr (.inl rfl), rfl⟩
  · exact ⟨[], .inl rfl, rfl⟩

private theorem isSome_readExponent?_iff :
    (readExponent? s).isSome = true ↔ IsExponent Char.isDigit s := by
  constructor
  · intro h
    unfold readExponent? at h
    split at h
    · exact .absent
    · next c cs =>
      split at h
      · next hc =>
        obtain ⟨sign, hsign, hcs⟩ := exists_sign cs
        dsimp only at h
        split at h
        · next hd =>
          rw [hcs]
          exact .marked hc hsign ⟨hd.1, List.all_eq_true.1 hd.2⟩
        · cases h
      · cases h
  · intro h
    cases h with
    | absent => rfl
    | marked hc hsign hds =>
      have hrest : BeginsNumber Char.isDigit _ := hds.beginsNumber []
      rw [List.append_nil] at hrest
      obtain ⟨negative, ht⟩ := takeSign_append ⟨rfl, rfl⟩ hsign hrest
      simp only [readExponent?, if_pos hc, ht]
      rw [if_pos ⟨hds.1, List.all_eq_true.2 hds.2⟩]
      rfl

private theorem IsExponent.not_beginsNumber (h : IsExponent Char.isDigit e) :
    ∀ c ∈ e.head?, c.isDigit = false ∧ c ≠ '.' := by
  cases h with
  | absent => simp
  | marked hc _ _ =>
    rintro c ⟨rfl⟩
    rcases hc with rfl | rfl <;> decide

theorem takeWhile_append_of_head? (hw : ∀ c ∈ w, c.isDigit = true)
    (hr : ∀ c ∈ rest.head?, c.isDigit = false) :
    (w ++ rest).takeWhile Char.isDigit = w ∧ (w ++ rest).dropWhile Char.isDigit = rest := by
  rw [List.takeWhile_append_of_pos hw, List.dropWhile_append_of_pos hw]
  cases rest with
  | nil => simp
  | cons c cs =>
    have hc := hr c rfl
    simp [hc]

def takeFraction : List Char → List Char × List Char
  | '.' :: cs => (cs.takeWhile Char.isDigit, cs.dropWhile Char.isDigit)
  | cs => ([], cs)

/-- A literal is read in three steps, of which the first two leave a digit and the last nothing. -/
private theorem isSome_literalRead?_iff {t : List Char} (ht : (takeSign s).2 = t) :
    (Literal.read? s).isSome = true ↔
      ¬(t.takeWhile Char.isDigit = [] ∧ (takeFraction (t.dropWhile Char.isDigit)).1 = []) ∧
      (readExponent? (takeFraction (t.dropWhile Char.isDigit)).2).isSome = true := by
  subst ht
  have hread : Literal.read? s =
      let p := takeFraction ((takeSign s).2.dropWhile Char.isDigit)
      if (takeSign s).2.takeWhile Char.isDigit = [] ∧ p.1 = [] then none
      else (readExponent? p.2).map fun exponent =>
        ⟨(takeSign s).1, (takeSign s).2.takeWhile Char.isDigit, p.1, exponent⟩ := by
    unfold Literal.read? takeFraction
    rfl
  rw [hread]
  dsimp only
  split_ifs with hempty
  · simp [hempty]
  · rw [Option.isSome_map]
    exact (and_iff_right hempty).symm

private theorem takeFraction_of_head? (h : ∀ c ∈ s.head?, c ≠ '.') : takeFraction s = ([], s) := by
  unfold takeFraction
  split
  · exact absurd rfl (h '.' rfl)
  · rfl

private theorem takeFraction_cases (s : List Char) :
    takeFraction s = ([], s) ∨
    ∃ f rest, s = '.' :: (f ++ rest) ∧ takeFraction s = (f, rest) ∧ ∀ c ∈ f, c.isDigit = true := by
  unfold takeFraction
  split
  · next cs =>
    refine .inr ⟨_, _, ?_, rfl, fun c hc => List.mem_takeWhile_imp hc⟩
    rw [List.takeWhile_append_dropWhile]
  · exact .inl rfl

private theorem isSome_literalRead?_of_isNumeral (h : IsNumeral Char.isDigit s) :
    (Literal.read? s).isSome = true := by
  obtain ⟨hs, hm, he⟩ := h
  rename_i sign m e
  obtain ⟨negative, ht⟩ := takeSign_append ⟨rfl, rfl⟩ hs (hm.beginsNumber e)
  rw [isSome_literalRead?_iff (congrArg Prod.snd ht)]
  have hx := isSome_readExponent?_iff.2 he
  have hstop (c : Char) (hc : c ∈ e.head?) := he.not_beginsNumber c hc
  cases hm with
  | whole hw =>
    obtain ⟨htake, hdrop⟩ := takeWhile_append_of_head? hw.2 fun c hc => (hstop c hc).1
    rw [htake, hdrop, takeFraction_of_head? fun c hc => (hstop c hc).2]
    exact ⟨fun hempty => hw.1 hempty.1, hx⟩
  | pointed hw hf =>
    rename_i w f
    rw [List.append_assoc, List.cons_append]
    have hpoint : ∀ c ∈ ('.' :: (f ++ e)).head?, Char.isDigit c = false := by simp
    obtain ⟨htake, hdrop⟩ := takeWhile_append_of_head? hw.2 hpoint
    obtain ⟨hftake, hfdrop⟩ := takeWhile_append_of_head? hf fun c hc => (hstop c hc).1
    rw [htake, hdrop, takeFraction, hftake, hfdrop]
    exact ⟨fun hempty => hw.1 hempty.1, hx⟩
  | fraction hf =>
    rename_i f
    rw [List.cons_append]
    obtain ⟨hftake, hfdrop⟩ := takeWhile_append_of_head? hf.2 fun c hc => (hstop c hc).1
    have hdrop : ('.' :: (f ++ e)).dropWhile Char.isDigit = '.' :: (f ++ e) := rfl
    rw [hdrop, takeFraction, hftake, hfdrop]
    exact ⟨fun hempty => hf.1 hempty.2, hx⟩

private theorem isNumeral_of_isSome_literalRead? (h : (Literal.read? s).isSome = true) :
    IsNumeral Char.isDigit s := by
  obtain ⟨sign, hsign, hs⟩ := exists_sign s
  rw [isSome_literalRead?_iff rfl] at h
  generalize (takeSign s).2 = t at hs h
  obtain ⟨hne, hx⟩ := h
  have he := isSome_readExponent?_iff.1 hx
  have hw : ∀ c ∈ t.takeWhile Char.isDigit, c.isDigit = true := fun c hc =>
    List.mem_takeWhile_imp hc
  rw [hs, ← List.takeWhile_append_dropWhile (p := Char.isDigit) (l := t)]
  generalize t.takeWhile Char.isDigit = w at hne hw
  generalize t.dropWhile Char.isDigit = rest at hne hx he
  rcases takeFraction_cases rest with hnone | ⟨f, rest', rfl, hpoint, hf⟩
  · rw [hnone] at hne he
    exact .mk hsign (.whole ⟨fun hempty => hne ⟨hempty, rfl⟩, hw⟩) he
  · rw [hpoint] at hne he
    have hm : IsMantissa Char.isDigit (w ++ '.' :: f) := by
      by_cases hempty : w = []
      · subst hempty
        exact .fraction ⟨fun hfe => hne ⟨rfl, hfe⟩, hf⟩
      · exact .pointed ⟨hempty, hw⟩ hf
    have hsplit : w ++ '.' :: (f ++ rest') = (w ++ '.' :: f) ++ rest' := by
      rw [List.append_assoc, List.cons_append]
    rw [hsplit]
    exact .mk hsign hm he

private theorem isSome_readLiteral?_iff :
    (readLiteral? s).isSome = true ↔ IsNumeral Char.isDigit s := by
  rw [readLiteral?, Option.isSome_map]
  exact ⟨isNumeral_of_isSome_literalRead?, isSome_literalRead?_of_isNumeral⟩

private theorem isNaN_scaled (negative : Bool) (digits : Nat) (exponent : Int) :
    (scaled negative digits exponent).isNaN = false := by
  have hratio (num den : Nat) : (Double.ofRatio negative num den).isNaN = false := by
    rw [Double.ofRatio_eq]
    dsimp only
    cases Magnitude.round? (num * Double.unitsInOne) den <;> rfl
  unfold scaled
  dsimp only
  split_ifs
  · rfl
  · rfl
  · rfl
  · exact hratio _ _
  · exact hratio _ _

private theorem isNaN_of_readLiteral? {x : Double} (h : readLiteral? s = some x) :
    x.isNaN = false := by
  obtain ⟨l, -, rfl⟩ := Option.map_eq_some_iff.1 h
  exact isNaN_scaled _ _ _

def isNumeralChar (digit : Char → Bool) (c : Char) : Bool :=
  digit c || ['+', '-', '.', 'e', 'E'].contains c

theorem IsSign.chars (h : IsSign sign) : ∀ c ∈ sign, isNumeralChar digit c = true := by
  rcases h with rfl | rfl | rfl <;> simp [isNumeralChar]

theorem IsNumeral.chars (h : IsNumeral digit s) : ∀ c ∈ s, isNumeralChar digit c = true := by
  have hdigit (c : Char) (hc : digit c = true) : isNumeralChar digit c = true := by
    rw [isNumeralChar, hc, Bool.true_or]
  have hpoint : isNumeralChar digit '.' = true := by simp [isNumeralChar]
  obtain ⟨hs, hm, he⟩ := h
  intro c hc
  rcases List.mem_append.1 hc with hc | hc
  · exact hs.chars c hc
  rcases List.mem_append.1 hc with hc | hc
  · cases hm with
    | whole hw => exact hdigit c (hw.2 c hc)
    | pointed hw hf =>
      rcases List.mem_append.1 hc with hc | hc
      · exact hdigit c (hw.2 c hc)
      · rcases List.mem_cons.1 hc with rfl | hc
        · exact hpoint
        · exact hdigit c (hf c hc)
    | fraction hf =>
      rcases List.mem_cons.1 hc with rfl | hc
      · exact hpoint
      · exact hdigit c (hf.2 c hc)
  · cases he with
    | absent => cases hc
    | marked hmark hsign hds =>
      rcases List.mem_cons.1 hc with rfl | hc
      · rcases hmark with rfl | rfl <;> simp [isNumeralChar]
      rcases List.mem_append.1 hc with hc | hc
      · exact hsign.chars c hc
      · exact hdigit c (hds.2 c hc)

/-- A class of digits whose members in ASCII are the ten digits, with no blank among the others. -/
structure ExtendsDigits (digit : Char → Bool) : Prop where
  ascii : ∀ c : Char, c.toNat < 128 → digit c = c.isDigit
  no_blank : ∀ c : Char, Text.isBlank c = true → digit c = false

private theorem extendsDigits_isDigit : ExtendsDigits Char.isDigit where
  ascii _ _ := rfl
  no_blank c hc := by
    by_contra h
    rw [isBlank_of_isDigit (Bool.not_eq_false _ ▸ h)] at hc
    cases hc

private theorem extendsDigits_digitSet : ExtendsDigits Pattern.digitSet.contains where
  ascii _ := Pattern.digitSet_contains_of_lt
  no_blank _ := Pattern.digitSet_contains_of_isBlank

private theorem toNat_lt_of_isNumeralChar {c : Char} (hc : isNumeralChar Char.isDigit c = true) :
    c.toNat < 128 := by
  rw [isNumeralChar, Bool.or_eq_true, List.contains_iff_mem] at hc
  simp only [List.mem_cons, List.not_mem_nil, or_false] at hc
  rcases hc with hc | rfl | rfl | rfl | rfl | rfl
  · have hn := Text.isDigit_iff.1 hc
    omega
  all_goals decide

private theorem mark_of_isNumeralChar {c : Char} (hc : isNumeralChar Char.isDigit c = true)
    (ha : c.isAlpha = true) : c = 'e' ∨ c = 'E' := by
  rw [isNumeralChar, (Text.isDigit_of_isAlpha ha).2, Bool.false_or, List.contains_iff_mem] at hc
  simp only [List.mem_cons, List.not_mem_nil, or_false] at hc
  rcases hc with rfl | rfl | rfl | h
  · cases ha
  · cases ha
  · cases ha
  · exact h

section Extended

variable (hd : ExtendsDigits digit)
include hd

private theorem ExtendsDigits.of_isDigit (c : Char) (hc : c.isDigit = true) : digit c = true := by
  have hn := Text.isDigit_iff.1 hc
  rw [hd.ascii c (by omega), hc]

private theorem ExtendsDigits.not_isAlpha {c : Char} (hc : digit c = true) : c.isAlpha = false := by
  by_contra h
  obtain ⟨hlt, hdigit⟩ := Text.isDigit_of_isAlpha (Bool.not_eq_false _ ▸ h)
  rw [hd.ascii c hlt, hdigit] at hc
  cases hc

private theorem ExtendsDigits.isBlank_numeralChar {c : Char} (hc : isNumeralChar digit c = true) :
    Text.isBlank c = false := by
  by_contra h
  rw [Bool.not_eq_false] at h
  rw [isNumeralChar, hd.no_blank c h, Bool.false_or, List.contains_iff_mem] at hc
  simp only [List.mem_cons, List.not_mem_nil, or_false] at hc
  rcases hc with rfl | rfl | rfl | rfl | rfl <;> cases h

private theorem readWord?_of_isNumeral (h : IsNumeral digit s) : readWord? s = none := by
  obtain ⟨hs, hm, he⟩ := h
  rename_i sign m e
  have hb := hm.beginsNumber e
  obtain ⟨negative, ht⟩ := takeSign_append ⟨hd.ascii '+' (by decide), hd.ascii '-' (by decide)⟩ hs hb
  obtain ⟨c, cs, hme, hc⟩ := hb
  have ha : c.isAlpha = false := by
    rcases hc with hc | rfl
    · exact hd.not_isAlpha hc
    · rfl
  rw [hme] at ht ⊢
  exact readWord?_of_takeSign_cons ht ha

private theorem read?_of_isNumeral (h : IsNumeral digit s) : read? s = readLiteral? s := by
  rw [read?, readWord?_of_isNumeral hd h, Option.none_or]

private theorem strip_of_isNumeral (h : IsNumeral digit s) {before after : List Char}
    (hb : ∀ c ∈ before, Text.isBlank c = true) (ha : ∀ c ∈ after, Text.isBlank c = true) :
    Text.strip Text.isBlank (before ++ (s ++ after)) = s := by
  have hs : ∀ c ∈ s, Text.isBlank c = false := fun c hc => hd.isBlank_numeralChar (h.chars c hc)
  exact Text.strip_padded hb ha (Text.any_eq_false_of_forall fun c hc => hs c (List.mem_of_head? hc))
    (Text.any_eq_false_of_forall fun c hc => hs c (List.mem_of_getLast? hc))

end Extended

def IsPaddedNumeral (digit : Char → Bool) (s : List Char) : Prop :=
  ∃ before t after, s = before ++ (t ++ after) ∧ IsNumeral digit t ∧
    (∀ c ∈ before, Text.isBlank c = true) ∧ ∀ c ∈ after, Text.isBlank c = true

private theorem isPaddedNumeral_iff (hd : ExtendsDigits digit) :
    IsPaddedNumeral digit s ↔ IsNumeral digit (Text.strip Text.isBlank s) := by
  constructor
  · rintro ⟨before, t, after, rfl, ht, hb, ha⟩
    rwa [strip_of_isNumeral hd ht hb ha]
  · intro h
    obtain ⟨before, after, hs, hb, ha⟩ := Text.exists_strip Text.isBlank s
    exact ⟨before, _, after, hs, h, hb, ha⟩

end Decimal

namespace Value

open Decimal (IsNumeral IsPaddedNumeral ExtendsDigits)

/-- A text is a number exactly if it is a numeral in the ten digits of ASCII between blanks. It is
never NaN; a blank inside, a character beyond ASCII and a letter that marks no exponent all refuse
it. So it makes no difference that a text is first matched against the numerals in more digits and
that what reads it then would also take words: neither lets another text in. -/
theorem asNumber?_text_iff (s : String) :
    ((text s).asNumber?.isSome = true ↔
      IsNumeral Char.isDigit (Text.strip Text.isBlank s.toList)) ∧
    (∀ x, (text s).asNumber? = some x → x.isNaN = false) ∧
    (∀ c ∈ Text.strip Text.isBlank s.toList,
      Text.isBlank c = true ∨ 128 ≤ c.toNat ∨ (c.isAlpha = true ∧ c ≠ 'e' ∧ c ≠ 'E') →
      (text s).asNumber? = none) ∧
    ∀ digit, ExtendsDigits digit →
      (IsPaddedNumeral digit s.toList →
        (text s).asNumber? = Decimal.read? (Text.strip Text.isBlank s.toList)) ∧
      (¬IsPaddedNumeral digit s.toList → (text s).asNumber? = none) := by
  have hread : (text s).asNumber? = Decimal.readLiteral? (Text.strip Text.isBlank s.toList) := rfl
  simp only [hread]
  generalize ht : Text.strip Text.isBlank s.toList = t
  have hiff := Decimal.isSome_readLiteral?_iff (s := t)
  refine ⟨hiff, fun x => Decimal.isNaN_of_readLiteral?, ?_, ?_⟩
  · intro c hc hodd
    rw [← Option.not_isSome_iff_eq_none, hiff]
    intro h
    have hchar := h.chars c hc
    rcases hodd with hblank | hbeyond | ⟨hletter, he, hE⟩
    · rw [Decimal.extendsDigits_isDigit.isBlank_numeralChar hchar] at hblank
      cases hblank
    · have := Decimal.toNat_lt_of_isNumeralChar hchar
      omega
    · exact (Decimal.mark_of_isNumeralChar hchar hletter).elim he hE
  · intro digit hd
    rw [Decimal.isPaddedNumeral_iff hd, ht]
    -- A numeral in any class is no word, and one in the ten digits is one in the class too.
    constructor
    · intro h
      exact (Decimal.read?_of_isNumeral hd h).symm
    · intro h
      rw [← Option.not_isSome_iff_eq_none, hiff]
      exact fun h' => h (h'.mono hd.of_isDigit)

/-- The digits of Arabic pass for digits at first, and a number in them is refused all the same. -/
theorem asNumber?_text_iff_arabic :
    (text " -1.5e2 ").asNumber?.isSome = true ∧
    IsPaddedNumeral Pattern.digitSet.contains "٣ ".toList ∧
    (text "٣ ").asNumber? = none ∧ Decimal.read? (Text.strip Text.isBlank "٣ ".toList) = none := by
  have hn : IsNumeral Char.isDigit (['-'] ++ ((['1'] ++ '.' :: ['5']) ++ 'e' :: ([] ++ ['2']))) :=
    .mk (.inr (.inr rfl)) (.pointed ⟨by simp, by simp⟩ (by simp))
      (.marked (.inl rfl) (.inl rfl) ⟨by simp, by simp⟩)
  have hp : IsPaddedNumeral Pattern.digitSet.contains "٣ ".toList :=
    ⟨[], [] ++ (['٣'] ++ []), [' '], rfl,
      .mk (.inl rfl)
        (.whole ⟨by simp, by simp [Pattern.digitSet_contains_of_arabic (c := '٣')]⟩) .absent,
      by simp,
      List.all_eq_true.1 (by decide)⟩
  have hnone : (text "٣ ").asNumber? = none :=
    (asNumber?_text_iff "٣ ").2.2.1 '٣' (by decide) (.inr (.inl (by decide)))
  refine ⟨(asNumber?_text_iff " -1.5e2 ").1.2 hn, hp, hnone, ?_⟩
  rw [← ((asNumber?_text_iff "٣ ").2.2.2 _ Decimal.extendsDigits_digitSet).1 hp, hnone]

end Value

end FormCheck
