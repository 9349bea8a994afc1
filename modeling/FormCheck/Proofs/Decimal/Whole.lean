import FormCheck.Decimal.Literal
import FormCheck.Proofs.Decimal.Rounding
import FormCheck.Proofs.Text.Ascii
import FormCheck.Proofs.Text.Blank

/-!
Whole numbers as doubles. A whole number of 64 bits becomes the one of 53 significant bits next to
it, whether it is converted or read from its decimal digits. Doubles that are whole compare like the
numbers they are, and they have no fraction to lose.
-/
namespace FormCheck

def signed (negative : Bool) (n : Nat) : Int :=
  if negative then -(n : Int) else n

@[simp] theorem natAbs_signed (negative : Bool) (n : Nat) : (signed negative n).natAbs = n := by
  unfold signed
  split <;> simp

private theorem signed_mul (negative : Bool) (n k : Nat) :
    signed negative (n * k) = signed negative n * k := by
  unfold signed
  split
  · rw [Int.natCast_mul, Int.neg_mul]
  · exact Int.natCast_mul n k

/-- The nearest whole number of 53 significant bits, of two the even one. -/
def roundInt (n : Int) : Int :=
  if n < 0 then -(roundNat n.natAbs : Int) else roundNat n.natAbs

section RoundInt

variable {m n : Int}

private theorem natAbs_roundInt (n : Int) : (roundInt n).natAbs = roundNat n.natAbs := by
  unfold roundInt
  split <;> simp

@[simp] theorem roundInt_natCast (n : Nat) : roundInt n = roundNat n := by
  unfold roundInt
  rw [if_neg (by omega), Int.natAbs_natCast]

private theorem roundInt_neg (n : Int) : roundInt (-n) = -roundInt n := by
  unfold roundInt
  rw [Int.natAbs_neg]
  rcases Int.lt_trichotomy n 0 with hn | rfl | hn
  · rw [if_neg (by omega), if_pos hn, Int.neg_neg]
  · rfl
  · rw [if_pos (by omega), if_neg (by omega)]

private theorem roundInt_signed (negative : Bool) (n : Nat) :
    roundInt (signed negative n) = signed negative (roundNat n) := by
  cases negative
  · exact roundInt_natCast n
  · exact (roundInt_neg n).trans (congrArg Neg.neg (roundInt_natCast n))

private theorem roundInt_of_natAbs_le (h : n.natAbs ≤ 2 ^ 53) : roundInt n = n := by
  unfold roundInt
  rw [roundNat_of_le h]
  split <;> omega

private theorem roundInt_mono (h : m ≤ n) : roundInt m ≤ roundInt n := by
  unfold roundInt
  split_ifs with hm hn hn
  · have hr : roundNat n.natAbs ≤ roundNat m.natAbs := roundNat_mono (by omega)
    omega
  · omega
  · omega
  · have hr : roundNat m.natAbs ≤ roundNat n.natAbs := roundNat_mono (by omega)
    omega

theorem roundInt_le_iff : roundInt m ≤ roundInt n ↔ m ≤ n ∨ roundInt m = roundInt n := by
  constructor
  · intro h
    rcases Int.le_total m n with hle | hge
    · exact .inl hle
    · exact .inr (Int.le_antisymm h (roundInt_mono hge))
  · rintro (hle | he)
    · exact roundInt_mono hle
    · exact he.le

private theorem natAbs_le_of_roundInt_eq (h : roundInt m = roundInt n) (hn : 2 ^ 53 ≤ n.natAbs) :
    2 ^ 53 ≤ m.natAbs := by
  have habs : roundNat m.natAbs = roundNat n.natAbs := by
    rw [← natAbs_roundInt, ← natAbs_roundInt, h]
  have hfixed : roundNat (2 ^ 53) = 2 ^ 53 := roundNat_of_le (Nat.le_refl _)
  have hr := roundNat_mono hn
  by_contra hm
  rw [roundNat_of_le (by omega : m.natAbs ≤ 2 ^ 53)] at habs
  omega

theorem eq_or_large_of_roundInt_eq (h : roundInt m = roundInt n) :
    m = n ∨ 2 ^ 53 ≤ m.natAbs ∧ 2 ^ 53 ≤ n.natAbs := by
  by_cases hn : 2 ^ 53 ≤ n.natAbs
  · exact .inr ⟨natAbs_le_of_roundInt_eq h hn, hn⟩
  · have hm : ¬2 ^ 53 ≤ m.natAbs := fun hm => hn (natAbs_le_of_roundInt_eq h.symm hm)
    rw [roundInt_of_natAbs_le (by omega), roundInt_of_natAbs_le (by omega)] at h
    exact .inl h

end RoundInt

namespace Double

variable {x y : Double} {m n : Int}

def unitsInOne : Nat := Nat.pow 2 1074

private theorem unitsInOne_pos : 0 < unitsInOne := by decide +kernel

private theorem roundNat_mul_unitsInOne (n : Nat) :
    roundNat (n * unitsInOne) = roundNat n * unitsInOne := by
  unfold unitsInOne
  generalize 1074 = k
  exact roundNat_mul_two_pow n k

private theorem log2_mul_unitsInOne_le {n : Nat} (h : n < 2 ^ 64) :
    Nat.log2 (n * unitsInOne) ≤ 63 + 1074 := by
  unfold unitsInOne
  generalize 1074 = k
  exact log2_mul_two_pow_le h k

theorem ofRatio_eq : ofRatio = fun negative num den =>
    (Magnitude.round? (num * unitsInOne) den).elim (infinite negative) (finite negative) := by
  delta ofRatio unitsInOne
  funext negative num den
  cases Magnitude.round? (num * Nat.pow 2 1074) den <;> rfl

private theorem ofRatio_one {negative : Bool} {n : Nat} {magnitude : Magnitude}
    (h : Magnitude.round? (n * unitsInOne) 1 = some magnitude) :
    ofRatio negative n 1 = finite negative magnitude := by
  rw [ofRatio_eq]
  simp only [h, Option.elim_some]

private theorem trunc_finite (negative : Bool) (magnitude : Magnitude) :
    trunc (finite negative magnitude) = ofRatio negative (magnitude.units / unitsInOne) 1 := by
  unfold trunc unitsInOne
  generalize 1074 = k
  rfl

/-- The value of the double is the whole number. -/
def IsWhole (x : Double) (n : Int) : Prop :=
  ∃ negative magnitude, x = finite negative magnitude ∧
    signedUnits negative magnitude = n * unitsInOne

private theorem signedUnits_eq (negative : Bool) (magnitude : Magnitude) :
    signedUnits negative magnitude = signed negative magnitude.units :=
  rfl

namespace IsWhole

theorem le_iff (hx : x.IsWhole m) (hy : y.IsWhole n) : x.le y = true ↔ m ≤ n := by
  obtain ⟨_, _, rfl, hm⟩ := hx
  obtain ⟨_, _, rfl, hn⟩ := hy
  rw [le, decide_eq_true_iff, hm, hn]
  exact Int.mul_le_mul_right (Int.natCast_pos.2 unitsInOne_pos)

theorem eq_iff (hx : x.IsWhole m) (hy : y.IsWhole n) : x.eq y = true ↔ m = n := by
  rw [eq, Bool.and_eq_true, hx.le_iff hy, hy.le_iff hx, Int.le_antisymm_iff]

theorem trunc_eq (hx : x.IsWhole n) : x.trunc = x := by
  obtain ⟨negative, magnitude, rfl, hn⟩ := hx
  have hu : magnitude.units = n.natAbs * unitsInOne := by
    have habs := congrArg Int.natAbs hn
    rwa [signedUnits_eq, natAbs_signed, Int.natAbs_mul, Int.natAbs_natCast] at habs
  rw [trunc_finite, hu, Nat.mul_div_cancel _ unitsInOne_pos]
  apply ofRatio_one
  rw [← hu]
  exact magnitude.round?_units

end IsWhole

private theorem isWhole_ofRatio_one {n : Nat} (h : n < 2 ^ 64) (negative : Bool) :
    (ofRatio negative n 1).IsWhole (roundInt (signed negative n)) := by
  have hlog := log2_mul_unitsInOne_le h
  obtain ⟨magnitude, hr, hu⟩ := Magnitude.round?_one (hlog.trans (by decide))
  refine ⟨negative, magnitude, ofRatio_one hr, ?_⟩
  rw [signedUnits_eq, hu, roundNat_mul_unitsInOne, signed_mul, roundInt_signed]

private theorem signed_natAbs (n : Int) : signed (decide (n < 0)) n.natAbs = n := by
  unfold signed
  simp only [decide_eq_true_eq]
  split <;> omega

theorem isWhole_ofInt (h : n.natAbs < 2 ^ 64) : (ofInt n).IsWhole (roundInt n) := by
  have hw := isWhole_ofRatio_one h (decide (n < 0))
  rwa [signed_natAbs] at hw

end Double

namespace Decimal

open Double

/-- The text is the decimal digits of a whole number, behind a sign if there is one. -/
inductive Spells : List Char → Int → Prop where
  | plain {digits : List Char} : digits ≠ [] → (∀ c ∈ digits, c.isDigit = true) →
      Spells digits (natOfDigits digits)
  | plus {digits : List Char} : digits ≠ [] → (∀ c ∈ digits, c.isDigit = true) →
      Spells ('+' :: digits) (natOfDigits digits)
  | minus {digits : List Char} : digits ≠ [] → (∀ c ∈ digits, c.isDigit = true) →
      Spells ('-' :: digits) (-natOfDigits digits)

variable {s digits : List Char} {n : Int}

private theorem takeSign_of_digits (hd : ∀ c ∈ digits, c.isDigit = true) :
    takeSign digits = (false, digits) := by
  unfold takeSign
  split
  · cases hd '-' List.mem_cons_self
  · cases hd '+' List.mem_cons_self
  · rfl

theorem readWord?_of_takeSign_cons {negative : Bool} {c : Char} {cs : List Char}
    (hs : takeSign s = (negative, c :: cs)) (hc : c.isAlpha = false) : readWord? s = none := by
  have hlower : c.toLower = c := by
    rcases Text.isAlpha_or_toLower_eq c with h | h
    · rw [hc] at h
      cases h
    · exact h
  have hne : c ≠ 'i' ∧ c ≠ 'n' := by
    constructor <;> rintro rfl <;> cases hc
  unfold readWord?
  rw [hs]
  simp [hlower, hne]

private theorem readWord?_of_takeSign {negative : Bool} (hs : takeSign s = (negative, digits))
    (hne : digits ≠ []) (hd : ∀ c ∈ digits, c.isDigit = true) : readWord? s = none := by
  cases digits with
  | nil => contradiction
  | cons c cs =>
    exact readWord?_of_takeSign_cons hs (Text.isAlpha_of_isDigit (hd c List.mem_cons_self))

private theorem readLiteral?_of_takeSign {negative : Bool} (hs : takeSign s = (negative, digits))
    (hne : digits ≠ []) (hd : ∀ c ∈ digits, c.isDigit = true) :
    readLiteral? s = some (scaled negative (natOfDigits digits) 0) := by
  have htake : digits.takeWhile Char.isDigit = digits :=
    List.takeWhile_eq_self_iff.2 hd
  have hdrop : digits.dropWhile Char.isDigit = [] := List.dropWhile_eq_nil_iff.2 hd
  unfold readLiteral? Literal.read?
  simp [hs, htake, hdrop, hne, readExponent?, Literal.value]

private theorem isWhole_scaled {n : Nat} (h : n < 2 ^ 64) (negative : Bool) :
    (scaled negative n 0).IsWhole (roundInt (signed negative n)) := by
  have hlog : Nat.log2 n ≤ 63 := log2_le_of_lt h
  unfold scaled
  dsimp only
  split_ifs with hzero hlarge hsmall hneg
  · subst hzero
    have hround : roundInt (signed negative 0) = 0 := by cases negative <;> rfl
    refine ⟨negative, .zero, rfl, ?_⟩
    rw [hround, Int.zero_mul]
    cases negative <;> rfl
  · omega
  · omega
  · contradiction
  · rw [Int.natAbs_zero, Nat.pow_eq, Nat.pow_zero, Nat.mul_one]
    exact isWhole_ofRatio_one h negative

private theorem Spells.takeSign_eq (h : Spells s n) :
    ∃ negative digits, takeSign s = (negative, digits) ∧ digits ≠ [] ∧
      (∀ c ∈ digits, c.isDigit = true) ∧ n = signed negative (natOfDigits digits) := by
  cases h with
  | plain hne hd => exact ⟨false, _, takeSign_of_digits hd, hne, hd, rfl⟩
  | plus hne hd => exact ⟨false, _, rfl, hne, hd, rfl⟩
  | minus hne hd => exact ⟨true, _, rfl, hne, hd, rfl⟩

theorem Spells.read? (h : Spells s n) (hn : n.natAbs < 2 ^ 64) :
    ∃ x, Decimal.read? s = some x ∧ x.IsWhole (roundInt n) := by
  obtain ⟨negative, digits, hs, hne, hd, rfl⟩ := h.takeSign_eq
  rw [natAbs_signed] at hn
  refine ⟨scaled negative (natOfDigits digits) 0, ?_, isWhole_scaled hn negative⟩
  unfold Decimal.read?
  rw [readWord?_of_takeSign hs hne hd, readLiteral?_of_takeSign hs hne hd, Option.none_or]

theorem isBlank_of_isDigit {c : Char} (h : c.isDigit = true) : Text.isBlank c = false := by
  have hc := Text.isDigit_iff.1 h
  unfold Text.isBlank
  simp only [Bool.or_eq_false_iff, Bool.and_eq_false_iff, decide_eq_false_iff_not,
    beq_eq_false_iff_ne]
  omega

theorem Spells.not_blank (h : Spells s n) : ∀ c ∈ s, Text.isBlank c = false := by
  cases h with
  | plain _ hd => exact fun c hc => isBlank_of_isDigit (hd c hc)
  | plus _ hd => exact List.forall_mem_cons.2 ⟨rfl, fun c hc => isBlank_of_isDigit (hd c hc)⟩
  | minus _ hd => exact List.forall_mem_cons.2 ⟨rfl, fun c hc => isBlank_of_isDigit (hd c hc)⟩

theorem natOfDigits_toDigits (n : Nat) : natOfDigits (Nat.toDigits 10 n) = n :=
  Nat.ofDigitChars_ten_toDigits

theorem isDigit_of_mem_toDigits (n : Nat) : ∀ c ∈ Nat.toDigits 10 n, c.isDigit = true :=
  fun _ hc => Nat.isDigit_of_mem_toDigits (by decide) (by decide) hc

theorem spells_toString (n : Int) : Spells (toString n).toList n := by
  rw [Int.toString_eq_repr, Int.repr_eq_if]
  split
  · have hs := Spells.plain Nat.toDigits_ne_nil (isDigit_of_mem_toDigits n.toNat)
    rw [natOfDigits_toDigits, Int.toNat_of_nonneg ‹_›] at hs
    rwa [Nat.toList_repr]
  · have hs := Spells.minus Nat.toDigits_ne_nil (isDigit_of_mem_toDigits (-n).toNat)
    rw [natOfDigits_toDigits, Int.toNat_of_nonneg (by omega), Int.neg_neg] at hs
    rwa [String.toList_append, Nat.toList_repr]

end Decimal

end FormCheck
