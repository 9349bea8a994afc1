import FormCheck.Proofs.Run.Failures
import FormCheck.Proofs.Sanitize

/-!
What rules see of a value. Only null is seen as null, a text of padding is seen as empty when values
are cleaned, and what was seen once is seen the same again.
-/
namespace FormCheck.Validator

variable {v : Validator} {data data' : Data} {other : String}

theorem prepare_of_sanitizes (h : v.sanitizes = true) (value : Value) :
    v.prepare value = value.sanitize := by
  rw [prepare, if_pos h]

theorem prepare_of_not_sanitizes (h : v.sanitizes = false) (value : Value) :
    v.prepare value = value := by
  rw [prepare, if_neg (by simp [h])]

private theorem prepare_eq_null_iff {value : Value} : v.prepare value = .null ↔ value = .null := by
  cases h : v.sanitizes with
  | true => rw [prepare_of_sanitizes h, Value.sanitize_eq_null_iff]
  | false => rw [prepare_of_not_sanitizes h]

@[simp] theorem prepare_null : v.prepare .null = .null := prepare_eq_null_iff.2 rfl

theorem prepare_text_of_padding {s : String} (h : v.sanitizes = true)
    (hs : ∀ c ∈ s.toList, isPadding c = true) : v.prepare (.text s) = .text "" := by
  rw [prepare_of_sanitizes h, Value.sanitize, sanitizeText_eq_empty_iff.2 hs]

@[simp] theorem prepare_empty : v.prepare (.text "") = .text "" := by
  cases h : v.sanitizes with
  | true => exact prepare_text_of_padding h (by simp)
  | false => exact prepare_of_not_sanitizes h _

theorem prepare_prepare (value : Value) : v.prepare (v.prepare value) = v.prepare value := by
  cases h : v.sanitizes with
  | true => simp only [prepare_of_sanitizes h, value.sanitize_sanitize]
  | false => simp only [prepare_of_not_sanitizes h]

theorem sibling?_eq_some_iff_prepared {sibling : Value} :
    v.sibling? data other = some sibling ↔ v.prepared data other = sibling ∧ sibling ≠ .null := by
  rw [sibling?_eq_some_iff, prepared]
  cases data.get? other with
  | none =>
    rw [Option.getD_none, prepare_null]
    constructor
    · rintro ⟨_, hv, _⟩
      cases hv
    · rintro ⟨rfl, hs⟩
      exact absurd rfl hs
  | some value =>
    constructor
    · rintro ⟨_, hv, hn, rfl⟩
      cases hv
      exact ⟨rfl, fun hp => hn (prepare_eq_null_iff.1 hp)⟩
    · rintro ⟨rfl, hn⟩
      exact ⟨value, rfl, fun hv => hn (prepare_eq_null_iff.2 hv), rfl⟩

theorem sibling?_congr_prepared (h : v.prepared data other = v.prepared data' other) :
    v.sibling? data other = v.sibling? data' other := by
  ext sibling
  rw [sibling?_eq_some_iff_prepared, sibling?_eq_some_iff_prepared, h]

end FormCheck.Validator
