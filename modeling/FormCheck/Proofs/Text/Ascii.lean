import FormCheck.Text.Blank

/-!
Letters and digits of ASCII by their codes.
-/
namespace FormCheck.Text

variable {c : Char}

theorem isDigit_iff : c.isDigit = true ↔ 48 ≤ c.toNat ∧ c.toNat ≤ 57 := by
  change (decide (48 ≤ c.val) && decide (c.val ≤ 57)) = true ↔ _
  rw [Bool.and_eq_true, decide_eq_true_iff, decide_eq_true_iff, UInt32.le_iff_toNat_le,
    UInt32.le_iff_toNat_le]
  rfl

theorem isAlpha_iff : c.isAlpha = true ↔
    (65 ≤ c.toNat ∧ c.toNat ≤ 90) ∨ (97 ≤ c.toNat ∧ c.toNat ≤ 122) := by
  change (decide (65 ≤ c.val ∧ c.val ≤ 90) || (decide (97 ≤ c.val) && decide (c.val ≤ 122))) = true ↔ _
  rw [Bool.or_eq_true, Bool.and_eq_true, decide_eq_true_iff, decide_eq_true_iff, decide_eq_true_iff,
    UInt32.le_iff_toNat_le, UInt32.le_iff_toNat_le, UInt32.le_iff_toNat_le, UInt32.le_iff_toNat_le]
  rfl

theorem isDigit_of_isAlpha (h : c.isAlpha = true) : c.toNat < 128 ∧ c.isDigit = false := by
  have hn := isAlpha_iff.1 h
  rw [← Bool.not_eq_true, isDigit_iff]
  omega

theorem isAlpha_of_isDigit (h : c.isDigit = true) : c.isAlpha = false := by
  rw [← Bool.not_eq_true]
  intro ha
  rw [(isDigit_of_isAlpha ha).2] at h
  cases h

theorem isAlpha_or_toLower_eq (c : Char) : c.isAlpha = true ∨ c.toLower = c := by
  unfold Char.toLower
  split
  · next h =>
    refine .inl (isAlpha_iff.2 (.inl ?_))
    rw [ge_iff_le, UInt32.le_iff_toNat_le, UInt32.le_iff_toNat_le] at h
    exact h
  · exact .inr rfl

private theorem isAlpha_toLower (h : c.isAlpha = true) : c.toLower.isAlpha = true := by
  unfold Char.toLower
  split
  · next hu =>
    rw [ge_iff_le, UInt32.le_iff_toNat_le, UInt32.le_iff_toNat_le] at hu
    have hcode : (c.val + 32).toNat = c.toNat + 32 := by
      have hlow : c.val.toNat ≤ 90 := hu.2
      rw [UInt32.toNat_add]
      exact Nat.mod_eq_of_lt (by change c.val.toNat + 32 < _; omega)
    have hlow : 65 ≤ c.toNat ∧ c.toNat ≤ 90 := hu
    refine isAlpha_iff.2 (.inr ?_)
    change 97 ≤ (c.val + 32).toNat ∧ (c.val + 32).toNat ≤ 122
    omega
  · exact h

theorem isAlpha_of_toLower (h : c.toLower.isAlpha = true) : c.isAlpha = true := by
  rcases isAlpha_or_toLower_eq c with hc | hc
  · exact hc
  · rwa [hc] at h

theorem toLower_eq_iff {d : Char} (h : d.isAlpha = false) : c.toLower = d ↔ c = d := by
  rcases isAlpha_or_toLower_eq c with hc | hc
  · constructor
    · rintro rfl
      rw [isAlpha_toLower hc] at h
      cases h
    · rintro rfl
      rw [hc] at h
      cases h
  · rw [hc]

end FormCheck.Text
