import Mathlib.Algebra.Ring.Nat
import Mathlib.Data.Nat.Log
import Mathlib.Tactic.SplitIfs
import FormCheck.Decimal.Double

/-!
Whole numbers rounded to 53 significant bits. Rounding keeps the order, leaves alone what has no
more bits than that, and does not see zeros put behind a number. It is what happens to a whole
number of units on its way to a double, and it changes no double that is there already.
-/
namespace FormCheck

section Quotient

variable {a b num den k : Nat}

private theorem div_le_roundHalfEven (num den : Nat) : num / den ≤ roundHalfEven num den := by
  unfold roundHalfEven
  dsimp only
  split_ifs <;> omega

private theorem roundHalfEven_le (num den : Nat) : roundHalfEven num den ≤ num / den + 1 := by
  unfold roundHalfEven
  dsimp only
  split_ifs <;> omega

private theorem roundHalfEven_of_dvd (h : den ∣ num) : roundHalfEven num den = num / den := by
  unfold roundHalfEven
  have hr : num % den = 0 := Nat.mod_eq_zero_of_dvd h
  rcases Nat.eq_zero_or_pos den with rfl | hd
  · simp_all
  · simp [hr, hd]

private theorem roundHalfEven_mono (h : a ≤ b) : roundHalfEven a den ≤ roundHalfEven b den := by
  have ha := roundHalfEven_le a den
  have hb := div_le_roundHalfEven b den
  have hq : a / den ≤ b / den := Nat.div_le_div_right h
  rcases Nat.lt_or_ge (a / den) (b / den) with hlt | hge
  · omega
  · -- Between the same neighbours the remainders decide.
    have he : a / den = b / den := Nat.le_antisymm hq hge
    have hr : a % den ≤ b % den := by
      have hda := Nat.div_add_mod a den
      have hdb := Nat.div_add_mod b den
      rw [he] at hda
      omega
    unfold roundHalfEven
    rw [he]
    dsimp only
    split_ifs <;> omega

private theorem roundHalfEven_mul_right (hk : 0 < k) (num den : Nat) :
    roundHalfEven (num * k) (den * k) = roundHalfEven num den := by
  have hless (x y : Nat) : 2 * (x * k) < y * k ↔ 2 * x < y := by
    rw [← Nat.mul_assoc, Nat.mul_lt_mul_right hk]
  have hmore (x y : Nat) : y * k < 2 * (x * k) ↔ y < 2 * x := by
    rw [← Nat.mul_assoc, Nat.mul_lt_mul_right hk]
  unfold roundHalfEven
  simp only [Nat.mul_div_mul_right _ _ hk, Nat.mul_mod_mul_right, hless, hmore]

end Quotient

/-- How far apart the numbers of 53 significant bits are that are as large as `n`. -/
def spacing (n : Nat) : Nat := Nat.pow 2 (Nat.log2 n - 52)

def roundNat (n : Nat) : Nat := roundHalfEven n (spacing n) * spacing n

section Spacing

variable {a b n m k : Nat}

private theorem spacing_pos (n : Nat) : 0 < spacing n := Nat.two_pow_pos _

theorem log2_le_of_lt (h : n < 2 ^ (k + 1)) : Nat.log2 n ≤ k := by
  rcases Nat.eq_zero_or_pos n with rfl | hn
  · exact Nat.zero_le k
  · exact Nat.lt_succ_iff.1 ((Nat.log2_lt hn.ne').2 h)

private theorem spacing_of_lt (h : n < 2 ^ 53) : spacing n = 1 := by
  rw [spacing, Nat.sub_eq_zero_of_le (log2_le_of_lt h), Nat.pow_eq, Nat.pow_zero]

private theorem le_log2_of_le (h : 2 ^ 52 ≤ n) : 52 ≤ Nat.log2 n :=
  (Nat.le_log2 (by omega)).2 h

private theorem spacing_mono (h : a ≤ b) : spacing a ≤ spacing b := by
  have hlog : Nat.log2 a ≤ Nat.log2 b := by
    rw [Nat.log2_eq_log_two, Nat.log2_eq_log_two]
    exact Nat.log_mono_right h
  exact Nat.pow_le_pow_right Nat.two_pos (by omega)

private theorem lt_mul_spacing (n : Nat) : n < 2 ^ 53 * spacing n := by
  calc n
      < 2 ^ (Nat.log2 n + 1) := Nat.lt_log2_self
    _ ≤ 2 ^ (53 + (Nat.log2 n - 52)) := Nat.pow_le_pow_right Nat.two_pos (by omega)
    _ = 2 ^ 53 * spacing n := Nat.pow_add 2 53 _

private theorem mul_spacing_le (h : 2 ^ 52 ≤ n) : 2 ^ 52 * spacing n ≤ n := by
  have hlog := le_log2_of_le h
  have hpow : 2 ^ 52 * spacing n = 2 ^ Nat.log2 n := by
    rw [spacing, Nat.pow_eq, ← Nat.pow_add]
    congr 1
    omega
  rw [hpow]
  exact Nat.log2_self_le (by omega)

theorem log2_mul_two_pow_le (h : n < 2 ^ (m + 1)) (k : Nat) :
    Nat.log2 (n * Nat.pow 2 k) ≤ m + k := by
  apply log2_le_of_lt
  rw [Nat.add_right_comm, Nat.pow_add]
  exact Nat.mul_lt_mul_of_pos_right h (Nat.two_pow_pos k)

private theorem spacing_mul_two_pow (h : 2 ^ 52 ≤ n) (k : Nat) :
    spacing (n * Nat.pow 2 k) = spacing n * Nat.pow 2 k := by
  have hlog := le_log2_of_le h
  have hn : n * Nat.pow 2 k ≠ 0 := (Nat.mul_pos (by omega) (Nat.two_pow_pos k)).ne'
  have hmul : Nat.log2 (n * Nat.pow 2 k) = Nat.log2 n + k := by
    apply Nat.le_antisymm (log2_mul_two_pow_le Nat.lt_log2_self k)
    apply (Nat.le_log2 hn).2
    rw [Nat.pow_add]
    exact Nat.mul_le_mul_right _ (Nat.log2_self_le (by omega))
  rw [spacing, hmul, spacing]
  simp only [Nat.pow_eq, ← Nat.pow_add]
  congr 1
  omega

private theorem roundHalfEven_spacing_le (n : Nat) : roundHalfEven n (spacing n) ≤ 2 ^ 53 := by
  have hq : n / spacing n < 2 ^ 53 :=
    (Nat.div_lt_iff_lt_mul (spacing_pos n)).2 (lt_mul_spacing n)
  have hr := roundHalfEven_le n (spacing n)
  omega

private theorem le_roundHalfEven_spacing (h : 2 ^ 52 ≤ n) : 2 ^ 52 ≤ roundHalfEven n (spacing n) :=
  ((Nat.le_div_iff_mul_le (spacing_pos n)).2 (mul_spacing_le h)).trans
    (div_le_roundHalfEven n (spacing n))

private theorem roundNat_of_dvd (h : spacing n ∣ n) : roundNat n = n := by
  rw [roundNat, roundHalfEven_of_dvd h, Nat.div_mul_cancel h]

private theorem roundNat_mul_two_pow_of_lt (h : m < 2 ^ 53) (k : Nat) :
    roundNat (m * Nat.pow 2 k) = m * Nat.pow 2 k := by
  apply roundNat_of_dvd
  have hle : Nat.log2 (m * Nat.pow 2 k) - 52 ≤ k := by
    have hlog := log2_mul_two_pow_le h k
    omega
  exact Nat.dvd_trans (Nat.pow_dvd_pow 2 hle) (Nat.dvd_mul_left _ _)

theorem roundNat_of_le (h : n ≤ 2 ^ 53) : roundNat n = n := by
  rcases Nat.lt_or_eq_of_le h with hlt | rfl
  · have hr := roundNat_mul_two_pow_of_lt hlt 0
    rwa [Nat.pow_eq, Nat.pow_zero, Nat.mul_one] at hr
  · exact roundNat_mul_two_pow_of_lt (m := 1) (by decide) 53

theorem roundNat_mono (h : a ≤ b) : roundNat a ≤ roundNat b := by
  rcases Nat.lt_or_eq_of_le (spacing_mono h) with hlt | heq
  · -- There is a power of two between the two numbers, and neither is rounded past it.
    have hb : 2 ^ 52 ≤ b := by
      by_contra hsmall
      rw [spacing_of_lt (by omega : b < 2 ^ 53)] at hlt
      have := spacing_pos a
      omega
    have hlog : Nat.log2 a - 52 < Nat.log2 b - 52 := (Nat.pow_lt_pow_iff_right Nat.one_lt_two).1 hlt
    have hpow : 2 ^ 53 * spacing a ≤ 2 ^ 52 * spacing b := by
      rw [spacing, spacing, Nat.pow_eq, Nat.pow_eq, ← Nat.pow_add, ← Nat.pow_add]
      exact Nat.pow_le_pow_right Nat.two_pos (by omega)
    calc roundNat a
        ≤ 2 ^ 53 * spacing a := Nat.mul_le_mul_right _ (roundHalfEven_spacing_le a)
      _ ≤ 2 ^ 52 * spacing b := hpow
      _ ≤ roundNat b := Nat.mul_le_mul_right _ (le_roundHalfEven_spacing hb)
  · rw [roundNat, roundNat, heq]
    exact Nat.mul_le_mul_right _ (roundHalfEven_mono h)

theorem roundNat_mul_two_pow (n k : Nat) :
    roundNat (n * Nat.pow 2 k) = roundNat n * Nat.pow 2 k := by
  rcases Nat.lt_or_ge n (2 ^ 52) with hlt | hge
  · rw [roundNat_mul_two_pow_of_lt (by omega), roundNat_of_le (by omega)]
  · have hk : 0 < Nat.pow 2 k := Nat.two_pow_pos k
    rw [roundNat, spacing_mul_two_pow hge, roundHalfEven_mul_right hk, roundNat, Nat.mul_assoc]

end Spacing

namespace Magnitude

private theorem mk?_of_canonical {mantissa scale : Nat} (hm : mantissa < Nat.pow 2 53)
    (hs : scale ≤ 2045) (hc : scale = 0 ∨ Nat.pow 2 52 ≤ mantissa) :
    mk? mantissa scale = some ⟨mantissa, scale, hm, hs, hc⟩ :=
  dif_pos ⟨hm, hs, hc⟩

theorem round?_one {n : Nat} (h : Nat.log2 n ≤ 2096) :
    ∃ x, round? n 1 = some x ∧ x.units = roundNat n := by
  have hle := roundHalfEven_spacing_le n
  have hround : round? n 1 =
      if roundHalfEven n (spacing n) = Nat.pow 2 53 then
        mk? (Nat.pow 2 52) (Nat.log2 n - 52 + 1)
      else mk? (roundHalfEven n (spacing n)) (Nat.log2 n - 52) := by
    rw [round?, Nat.div_one, Nat.one_mul, spacing]
  rw [hround]
  split
  · next hcarry =>
    -- The bit that is carried makes the number a power of two.
    refine ⟨_, mk?_of_canonical (by decide) (by omega) (.inr (Nat.le_refl _)), ?_⟩
    rw [units, roundNat, hcarry, spacing]
    simp only [Nat.pow_eq, ← Nat.pow_add]
    congr 1
    omega
  · next hne =>
    have hlt : roundHalfEven n (spacing n) < Nat.pow 2 53 := Nat.lt_of_le_of_ne hle hne
    have hc : Nat.log2 n - 52 = 0 ∨ Nat.pow 2 52 ≤ roundHalfEven n (spacing n) := by
      rcases Nat.lt_or_ge n (2 ^ 52) with hsmall | hbig
      · left
        exact Nat.sub_eq_zero_of_le ((log2_le_of_lt hsmall).trans (by decide))
      · exact .inr (le_roundHalfEven_spacing hbig)
    exact ⟨_, mk?_of_canonical hlt (by omega) hc, rfl⟩

theorem round?_units (x : Magnitude) : round? x.units 1 = some x := by
  have hm : x.mantissa < 2 ^ 53 := x.mantissa_lt
  have hlog : Nat.log2 x.units - 52 = x.scale := by
    rcases x.canonical with hs | hc
    · have hu : x.units = x.mantissa := by
        rw [units, hs]
        exact Nat.mul_one _
      rw [hu, hs]
      have hone : spacing x.mantissa = 2 ^ 0 := spacing_of_lt hm
      exact Nat.pow_right_injective (Nat.le_refl 2) hone
    · have hone : spacing x.mantissa = 2 ^ 0 := spacing_of_lt hm
      have hs := spacing_mul_two_pow hc x.scale
      rw [hone, Nat.pow_zero, Nat.one_mul] at hs
      exact Nat.pow_right_injective (Nat.le_refl 2) hs
  have hunit : spacing x.units = Nat.pow 2 x.scale := by rw [spacing, hlog]
  have hmantissa : roundHalfEven x.units (spacing x.units) = x.mantissa := by
    rw [hunit, units, roundHalfEven_of_dvd (Nat.dvd_mul_left _ _)]
    exact Nat.mul_div_cancel _ (Nat.two_pow_pos _)
  have hround : round? x.units 1 =
      if x.mantissa = Nat.pow 2 53 then mk? (Nat.pow 2 52) (x.scale + 1)
      else mk? x.mantissa x.scale := by
    rw [← hmantissa, round?, Nat.div_one, Nat.one_mul, spacing, hlog]
  have hne : x.mantissa ≠ Nat.pow 2 53 := hm.ne
  rw [hround, if_neg hne, mk?_of_canonical x.mantissa_lt x.scale_le x.canonical]

end Magnitude

end FormCheck
