import FormCheck.Checks.Measure
import FormCheck.Proofs.Decimal.Whole

/-!
The tests of size beside each other and beside the order of whole numbers. A range is its two
bounds, except for a text that is a number, which only the range reads as one. Whole numbers are
compared after both sides were rounded to 53 bits, so numbers that are large and close together are
taken for equal.
-/
namespace FormCheck.Checks

variable {v : Value} {a b p q : String}

private theorem bound?_one_eq (a b : String) : bound? [a, b] 1 = bound? [b] 0 := rfl

private theorem bound?_zero_eq (a b : String) : bound? [a, b] 0 = bound? [a] 0 := rfl

private theorem ranged?_text (s : String) :
    ranged? (.text s) = some ((Value.text s).asNumber?.getD (.ofNat s.length)) := rfl

private theorem between_of_ranged?_eq {w : Value} (h : ranged? v = measure? w) (a b : String) :
    between v [a, b] = (min w [a] && max w [b]) := by
  unfold between min max compare
  rw [bound?_one_eq, bound?_zero_eq, h]
  cases bound? [a] 0 <;> cases bound? [b] 0 <;> cases measure? w <;> simp

private theorem between_of_ranged?_eq_none (h : ranged? v = none) (params : List String) :
    between v params = false := by
  unfold between
  rw [h]
  cases bound? params 0 <;> cases bound? params 1 <;> rfl

/-- A range holds what keeps to both its bounds. A text that is a number is measured by that number,
which neither bound alone does, and only numbers and texts are in a range at all. -/
theorem between_is_min_and_max (a b : String) :
    (∀ n, between (.int n) [a, b] = (min (.int n) [a] && max (.int n) [b])) ∧
    (∀ x, between (.float x) [a, b] = (min (.float x) [a] && max (.float x) [b])) ∧
    (∀ s, between (.text s) [a, b] =
      match (Value.text s).asNumber? with
      | some x => min (.float x) [a] && max (.float x) [b]
      | none => min (.text s) [a] && max (.text s) [b]) ∧
    ∀ params,
      (∀ items, between (.list items) params = false) ∧
      (∀ u, between (.upload u) params = false) ∧
      (∀ c, between (.bool c) params = false) ∧
      between .null params = false := by
  refine ⟨fun n => between_of_ranged?_eq rfl a b, fun x => between_of_ranged?_eq rfl a b,
    fun s => ?_, fun params => ⟨?_, ?_, ?_, ?_⟩⟩
  · have hr := ranged?_text s
    cases hs : (Value.text s).asNumber? with
    | some x =>
      rw [hs, Option.getD_some] at hr
      exact between_of_ranged?_eq hr a b
    | none =>
      rw [hs, Option.getD_none] at hr
      exact between_of_ranged?_eq hr a b
  · exact fun items => between_of_ranged?_eq_none rfl params
  · exact fun u => between_of_ranged?_eq_none rfl params
  · exact fun c => between_of_ranged?_eq_none rfl params
  · exact between_of_ranged?_eq_none rfl params

/-- The parameter is a whole number in decimal digits, blanks around it apart. -/
def IsBound (p : String) (n : Int) : Prop :=
  Decimal.Spells (Text.strip Text.isBlank p.toList) n

private theorem isBound_toString (n : Int) : IsBound (toString n) n := by
  have hs := Decimal.spells_toString n
  rwa [IsBound, Text.strip_of_forall hs.not_blank]

private theorem natAbs_toInt_lt (n : Int64) : n.toInt.natAbs < 2 ^ 64 := by
  have hl := n.le_toInt
  have hu := n.toInt_lt
  omega

section Whole

variable {n m k : Int64}

private theorem IsBound.bound?_eq (h : IsBound p m.toInt) :
    ∃ y, bound? [p] 0 = some y ∧ y.IsWhole (roundInt m.toInt) :=
  Decimal.Spells.read? h (natAbs_toInt_lt m)

private theorem compare_int (test : Double → Double → Bool) (n : Int64) (h : IsBound p m.toInt) :
    ∃ x y, compare test (.int n) [p] = test x y ∧
      x.IsWhole (roundInt n.toInt) ∧ y.IsWhole (roundInt m.toInt) := by
  obtain ⟨y, hb, hy⟩ := h.bound?_eq
  have hx := Double.isWhole_ofInt (natAbs_toInt_lt n)
  refine ⟨_, y, ?_, hx, hy⟩
  unfold compare measure?
  rw [hb]

private theorem min_int_iff (h : IsBound p m.toInt) :
    min (.int n) [p] = true ↔ roundInt m.toInt ≤ roundInt n.toInt := by
  obtain ⟨x, y, hc, hx, hy⟩ := compare_int (fun actual bound => bound.le actual) n h
  rw [min, hc]
  exact hy.le_iff hx

private theorem max_int_iff (h : IsBound p m.toInt) :
    max (.int n) [p] = true ↔ roundInt n.toInt ≤ roundInt m.toInt := by
  obtain ⟨x, y, hc, hx, hy⟩ := compare_int Double.le n h
  rw [max, hc]
  exact hx.le_iff hy

private theorem size_int_iff (h : IsBound p m.toInt) :
    size (.int n) [p] = true ↔ roundInt n.toInt = roundInt m.toInt := by
  obtain ⟨x, y, hc, hx, hy⟩ := compare_int (fun actual bound => actual.eq bound.trunc) n h
  have hs : size (.int n) [p] = compare (fun actual bound => actual.eq bound.trunc) (.int n) [p] :=
    rfl
  rw [hs, hc, hy.trunc_eq]
  exact hx.eq_iff hy

private theorem between_int_iff (hp : IsBound p m.toInt) (hq : IsBound q k.toInt) :
    between (.int n) [p, q] = true ↔
      roundInt m.toInt ≤ roundInt n.toInt ∧ roundInt n.toInt ≤ roundInt k.toInt := by
  have hb : between (.int n) [p, q] = (min (.int n) [p] && max (.int n) [q]) :=
    between_of_ranged?_eq rfl p q
  rw [hb, Bool.and_eq_true, min_int_iff hp, max_int_iff hq]

end Whole

/-- Whole bounds are kept to up to rounding. Two numbers that are rounded to one are either the same
or both at least 2^53 in size, so below that the bounds are exact. -/
theorem whole_bounds_up_to_rounding (n b c : Int64) (p q : String)
    (hp : IsBound p b.toInt) (hq : IsBound q c.toInt) :
    (min (.int n) [p] = true ↔ b.toInt ≤ n.toInt ∨ roundInt b.toInt = roundInt n.toInt) ∧
    (max (.int n) [p] = true ↔ n.toInt ≤ b.toInt ∨ roundInt n.toInt = roundInt b.toInt) ∧
    (size (.int n) [p] = true ↔ roundInt n.toInt = roundInt b.toInt) ∧
    (between (.int n) [p, q] = true ↔
      (b.toInt ≤ n.toInt ∨ roundInt b.toInt = roundInt n.toInt) ∧
      (n.toInt ≤ c.toInt ∨ roundInt n.toInt = roundInt c.toInt)) ∧
    ∀ m : Int, roundInt n.toInt = roundInt m →
      n.toInt = m ∨ 2 ^ 53 ≤ n.toInt.natAbs ∧ 2 ^ 53 ≤ m.natAbs := by
  simp only [← roundInt_le_iff]
  exact ⟨min_int_iff hp, max_int_iff hp, size_int_iff hp, between_int_iff hp hq,
    fun m => eq_or_large_of_roundInt_eq⟩

/-- Beside the first number that needs 54 bits, with a sign, a zero and blanks about one bound. -/
theorem whole_bounds_beyond_53_bits :
    IsBound " +09007199254740993\n" (9007199254740993 : Int64).toInt ∧
    IsBound "9007199254740995" (9007199254740995 : Int64).toInt ∧
    min (.int 9007199254740992) [" +09007199254740993\n"] = true ∧
    max (.int 9007199254740992) [" +09007199254740993\n"] = true ∧
    size (.int 9007199254740992) [" +09007199254740993\n"] = true ∧
    between (.int 9007199254740992) [" +09007199254740993\n", "9007199254740995"] = true := by
  have hp : IsBound " +09007199254740993\n" (9007199254740993 : Int64).toInt := by
    have hstrip : Text.strip Text.isBlank " +09007199254740993\n".toList =
        '+' :: "09007199254740993".toList := by decide
    have hvalue : (9007199254740993 : Int64).toInt =
        Decimal.natOfDigits "09007199254740993".toList := by decide +kernel
    rw [IsBound, hstrip, hvalue]
    exact .plus (by decide) (List.all_eq_true.1 (by decide))
  have hq : IsBound "9007199254740995" (9007199254740995 : Int64).toInt :=
    isBound_toString (9007199254740995 : Int64).toInt
  have hr : roundInt (9007199254740992 : Int64).toInt =
      roundInt (9007199254740993 : Int64).toInt := by decide +kernel
  have hle : (9007199254740992 : Int64).toInt ≤ (9007199254740995 : Int64).toInt := by decide
  obtain ⟨hmin, hmax, hsize, hbetween, -⟩ :=
    whole_bounds_up_to_rounding 9007199254740992 9007199254740993 9007199254740995 _ _ hp hq
  exact ⟨hp, hq, hmin.2 (.inr hr.symm), hmax.2 (.inr hr), hsize.2 hr,
    hbetween.2 ⟨.inr hr.symm, .inl hle⟩⟩

/-- Numbers next to their bound are taken for the bound itself, from either side. -/
theorem bound_is_missed_by_one :
    ¬(9007199254740993 : Int64).toInt ≤ (9007199254740992 : Int64).toInt ∧
    (IsBound "9007199254740993" (9007199254740993 : Int64).toInt ∧
      min (.int 9007199254740992) ["9007199254740993"] = true ∧
      size (.int 9007199254740992) ["9007199254740993"] = true ∧
      between (.int 9007199254740992) ["9007199254740993", "9007199254740993"] = true) ∧
    IsBound "9007199254740992" (9007199254740992 : Int64).toInt ∧
    max (.int 9007199254740993) ["9007199254740992"] = true := by
  refine ⟨by decide, ⟨?_, by decide +kernel, by decide +kernel, by decide +kernel⟩, ?_,
    by decide +kernel⟩
  · exact isBound_toString (9007199254740993 : Int64).toInt
  · exact isBound_toString (9007199254740992 : Int64).toInt

end FormCheck.Checks
