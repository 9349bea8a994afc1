import FormCheck.Pattern.Classes
import FormCheck.Proofs.Text.Ascii
import FormCheck.Text.Blank

/-!
The characters that patterns take for digits. A set made of ranges holds what the ranges hold,
however they are joined, so it is enough to look through the table of the digits: it has the ten of
ASCII, all others beyond ASCII, and no blank.
-/
namespace FormCheck.Pattern

namespace CharSet

variable {ranges : List (Nat × Nat)} {n : Nat} {c : Char}

def Covers (ranges : List (Nat × Nat)) (n : Nat) : Prop :=
  ∃ r ∈ ranges, r.1 ≤ n ∧ n ≤ r.2

private theorem covers_cons {r : Nat × Nat} :
    Covers (r :: ranges) n ↔ (r.1 ≤ n ∧ n ≤ r.2) ∨ Covers ranges n := by
  simp [Covers]

private theorem covers_joinRanges {first : Nat × Nat} {rest : List (Nat × Nat)}
    (h : (first :: rest).Pairwise fun r s => r.1 ≤ s.1) :
    Covers (joinRanges first rest) n ↔ Covers (first :: rest) n := by
  induction rest generalizing first with
  | nil => rfl
  | cons next rest ih =>
    obtain ⟨hfirst, hrest⟩ := List.pairwise_cons.1 h
    have hnext : first.1 ≤ next.1 := hfirst next List.mem_cons_self
    unfold joinRanges
    split
    · next htouch =>
      have hjoined : ((first.1, max first.2 next.2) :: rest).Pairwise fun r s => r.1 ≤ s.1 :=
        List.pairwise_cons.2
          ⟨fun r hr => hfirst r (List.mem_cons_of_mem _ hr), (List.pairwise_cons.1 hrest).2⟩
      rw [ih hjoined, covers_cons, covers_cons, covers_cons, ← or_assoc]
      -- The two ranges touch, so nothing lies between them.
      apply or_congr_left
      dsimp only
      omega
    · rw [covers_cons, ih hrest]
      exact covers_cons.symm

private theorem pairwise_sorted (ranges : List (Nat × Nat)) :
    (ranges.mergeSort fun r s => r.1 ≤ s.1).Pairwise fun r s => r.1 ≤ s.1 := by
  have htrans (a b c : Nat × Nat) (hab : decide (a.1 ≤ b.1) = true)
      (hbc : decide (b.1 ≤ c.1) = true) : decide (a.1 ≤ c.1) = true := by
    simp only [decide_eq_true_eq] at *
    omega
  have htotal (a b : Nat × Nat) : (decide (a.1 ≤ b.1) || decide (b.1 ≤ a.1)) = true := by
    simp only [Bool.or_eq_true, decide_eq_true_eq]
    omega
  exact (List.pairwise_mergeSort htrans htotal ranges).imp of_decide_eq_true

theorem contains_iff {s : CharSet} : s.contains c = true ↔ Covers s.ranges c.toNat := by
  simp [contains, Covers]

private theorem contains_ofRanges_iff :
    (ofRanges ranges).contains c = true ↔ Covers ranges c.toNat := by
  have hsorted := pairwise_sorted ranges
  have hcovers : Covers (ranges.mergeSort fun r s => r.1 ≤ s.1) c.toNat ↔
      Covers ranges c.toNat := by
    simp only [Covers, (List.mergeSort_perm ranges _).mem_iff]
  rw [contains_iff, ← hcovers, ofRanges]
  split
  · next h => rw [h]
  · next h =>
    rw [h] at hsorted ⊢
    exact covers_joinRanges hsorted

end CharSet

/-- The ten digits of ASCII, or a range beyond ASCII without a blank. -/
def IsDigitRange (r : Nat × Nat) : Prop :=
  r = (0x30, 0x39) ∨ 0x660 ≤ r.1 ∧ (r.2 < 0x1680 ∨ 0x1680 < r.1 ∧ r.2 < 0x2000 ∨ 0x3000 < r.1)

instance : DecidablePred IsDigitRange := fun _ => inferInstanceAs (Decidable (_ ∨ _))

open Unicode in
set_option maxRecDepth 8000 in
private theorem exists_digit_ranges :
    ∃ ranges, digitSet = .ofRanges ranges ∧ (0x30, 0x39) ∈ ranges ∧
      (0x660, 0x669) ∈ ranges ∧ ∀ r ∈ ranges, IsDigitRange r := by
  -- The table is evaluated on the characters of its text, which need no decoding then.
  have hread : ∃ text chars, lookup? categories "nd" = some (.ofText text) ∧
      text = String.ofList chars ∧
      let ranges := (chars.foldl Reading.step {}).close.done.toList
      (0x30, 0x39) ∈ ranges ∧ (0x660, 0x669) ∈ ranges ∧ ∀ r ∈ ranges, IsDigitRange r :=
    ⟨_, _, rfl, rfl, by decide +kernel, by decide +kernel, by decide +kernel⟩
  obtain ⟨text, chars, htable, rfl, hranges⟩ := hread
  refine ⟨_, ?_, hranges⟩
  rw [digitSet, ofTables, List.flatMap_cons, List.flatMap_nil, List.append_nil, htable,
    Option.map_some, Option.getD_some, Ranges.ofText, String.foldl_eq_foldl_toList,
    String.toList_ofList]

theorem digitSet_contains_of_lt {c : Char} (hc : c.toNat < 128) :
    digitSet.contains c = c.isDigit := by
  obtain ⟨ranges, hset, hascii, -, hr⟩ := exists_digit_ranges
  rw [Bool.eq_iff_iff, hset, CharSet.contains_ofRanges_iff, Text.isDigit_iff]
  constructor
  · rintro ⟨r, hmem, hfirst, hlast⟩
    rcases hr r hmem with rfl | ⟨hbeyond, -⟩
    · exact ⟨hfirst, hlast⟩
    · omega
  · intro h
    exact ⟨_, hascii, h⟩

theorem digitSet_contains_of_arabic {c : Char} (hc : 0x660 ≤ c.toNat ∧ c.toNat ≤ 0x669) :
    digitSet.contains c = true := by
  obtain ⟨ranges, hset, -, harabic, -⟩ := exists_digit_ranges
  rw [hset, CharSet.contains_ofRanges_iff]
  exact ⟨_, harabic, hc⟩

theorem digitSet_contains_of_isBlank {c : Char} (hc : Text.isBlank c = true) :
    digitSet.contains c = false := by
  obtain ⟨ranges, hset, -, -, hr⟩ := exists_digit_ranges
  rw [← Bool.not_eq_true, hset, CharSet.contains_ofRanges_iff]
  rintro ⟨r, hmem, hfirst, hlast⟩
  simp only [Text.isBlank, Bool.or_eq_true, Bool.and_eq_true, decide_eq_true_eq, beq_iff_eq] at hc
  rcases hr r hmem with rfl | ⟨hbeyond, hgap⟩
  · dsimp only at hfirst hlast
    omega
  · omega

end FormCheck.Pattern
