import FormCheck.Proofs.Run.Grouping
import FormCheck.Proofs.Run.Prepared

/-!
Fields that hold nothing. Rules other than `required`, `filled` and those that compare fields are
not asked about what is absent, so whatever is registered under their names, the field passes.
`required` refuses it, also where the value was not cleaned and still has its padding.
-/
namespace FormCheck

def demandingNames : List String := ["required", "filled", "confirmed", "same", "different"]

/-- All rules are known, and none of them is asked about absent values. -/
def FieldRules.IsOptional (known : String → Bool) (rules : FieldRules) : Prop :=
  ∃ list, rules.toSpec = .ok list ∧
    ∀ r ∈ list.toList, known r.1 = true ∧ r.1 ∉ demandingNames

/-- A field that is missing or null, or a text of padding only. -/
inductive IsBlank : Option Value → Prop where
  | missing : IsBlank none
  | null : IsBlank (some .null)
  | padding {s : String} : (∀ c ∈ s.toList, isPadding c = true) → IsBlank (some (.text s))

/-- A field that holds nothing, and the absent value that rules see of it. -/
inductive Validator.SeesAbsent (v : Validator) : Option Value → Value → Prop where
  | missing : SeesAbsent v none .null
  | null : SeesAbsent v (some .null) .null
  | empty : SeesAbsent v (some (.text "")) (.text "")
  | padding {s : String} : v.sanitizes = true → (∀ c ∈ s.toList, isPadding c = true) →
      SeesAbsent v (some (.text s)) (.text "")

namespace Checks

private theorem required_eq_false_of_padding {s : String} (h : ∀ c ∈ s.toList, isPadding c = true) :
    required (.text s) = false := by
  rw [required, holdsText, stripPadding, Text.strip_eq_nil_iff.2 h]
  rfl

end Checks

namespace Validator

variable {v : Validator} {env : Surroundings} {data : Data} {field name : String} {rule : Rule}
  {params : List String} {rules : FieldRules} {seen : Value}

private theorem SeesAbsent.prepare_eq {raw : Option Value} (h : v.SeesAbsent raw seen) :
    v.prepare (raw.getD .null) = seen := by
  cases h with
  | missing => exact prepare_null
  | null => exact prepare_null
  | empty => exact prepare_empty
  | padding h hs => exact prepare_text_of_padding h hs

theorem SeesAbsent.isAbsent {raw : Option Value} (h : v.SeesAbsent raw seen) :
    seen.isAbsent = true := by
  cases h <;> rfl

private theorem not_fails_of_isAbsent (ha : (v.prepared data field).isAbsent = true)
    (hn : name ∉ demandingNames) : ¬v.Fails env data field rule name params := by
  simp only [demandingNames, List.mem_cons, List.not_mem_nil, or_false, not_or] at hn
  intro h
  cases h with
  | unmatched hu => simp [hn] at hu
  | matched sibling hd => simp [hn] at hd
  | refused _ hp => simp [hn, ha] at hp

private theorem runRules_of_isAbsent (ha : (v.prepared data field).isAbsent = true)
    {listed : List (String × List String)}
    (hl : ∀ r ∈ listed, v.registry.has r.1 = true ∧ r.1 ∉ demandingNames) (report : Report) :
    v.runRules env data field (v.prepared data field) report listed = pure (.ok report) := by
  induction listed with
  | nil => rfl
  | cons r listed ih =>
    obtain ⟨⟨hk, hn⟩, hrest⟩ := List.forall_mem_cons.1 hl
    obtain ⟨rule, hg⟩ := Option.isSome_iff_exists.1 hk
    rw [runRules_cons_of_not_fails hg (not_fails_of_isAbsent ha hn)]
    exact ih hrest

private theorem runEntry_of_isAbsent (ha : (v.prepared data field).isAbsent = true)
    (ho : rules.IsOptional v.registry.has) (report : Report) :
    v.runEntry env data report (field, rules) =
      pure (.ok (report.settle field (v.prepared data field))) := by
  obtain ⟨list, hl, hr⟩ := ho
  rw [runEntry, hl]
  simp only [runRules_of_isAbsent ha hr]
  rfl

private theorem failures_of_isAbsent (ha : (v.prepared data field).isAbsent = true)
    (ho : rules.IsOptional v.registry.has) : v.failures env data field rules.listed = [] := by
  obtain ⟨list, hl, hr⟩ := ho
  rw [FieldRules.listed_of_toSpec hl, failures, List.filterMap_eq_nil_iff]
  intro r hm
  simp only [failure?, not_fails_of_isAbsent ha (hr r hm).2, if_false]
  split <;> rfl

private theorem required_prepare_of_isBlank {raw : Option Value} (h : IsBlank raw) :
    Checks.required (v.prepare (raw.getD .null)) = false := by
  cases h with
  | missing => exact congrArg Checks.required prepare_null
  | null => exact congrArg Checks.required prepare_null
  | padding hp =>
    cases hs : v.sanitizes with
    | true =>
      rw [Option.getD_some, prepare_text_of_padding hs hp]
      rfl
    | false =>
      rw [Option.getD_some, prepare_of_not_sanitizes hs]
      exact Checks.required_eq_false_of_padding hp

theorem builtin_required :
    Registry.builtin.get? "required" = some ⟨"required", .ofValue Checks.required,
      "The :field field is required."⟩ := rfl

private theorem failures_of_isBlank (h : IsBlank (data.get? field))
    (hg : v.registry.get? "required" = Registry.builtin.get? "required")
    (hr : ("required", params) ∈ rules.listed) :
    v.failures env data field rules.listed ≠ [] := by
  rw [builtin_required] at hg
  have ht : Test.ofValue Checks.required env (v.prepared data field) params = false :=
    required_prepare_of_isBlank h
  exact List.ne_nil_of_mem (mem_failures hr hg (.refused (by decide) (.inr (.inl rfl)) ht))

/-- A field that holds nothing passes entries of optional rules, and is reported as null or empty.
With the built-in `required` among its rules it fails. -/
theorem verdict_of_blank_field (v : Validator) (env : Surroundings) (data : Data)
    (field : String) :
    (∀ seen, v.SeesAbsent (data.get? field) seen →
      (∀ rules report, FieldRules.IsOptional v.registry.has rules →
        ∃ after, v.runEntry env data report (field, rules) = pure (.ok after) ∧
          after.errors = report.errors) ∧
      ∀ entries : List Entry, (∀ e ∈ entries, e.2.Usable v.registry.has) →
        field ∈ entries.map Prod.fst →
        (∀ e ∈ entries, e.1 = field → e.2.IsOptional v.registry.has) →
        ∃ report, (v.validate env data entries).value = .ok report ∧
          report.fieldErrors field = [] ∧ report.value? field = some seen) ∧
    (IsBlank (data.get? field) →
      v.registry.get? "required" = Registry.builtin.get? "required" →
      ∀ entries : List Entry, (∀ e ∈ entries, e.2.Usable v.registry.has) →
        (∃ e ∈ entries, e.1 = field ∧ ∃ params, ("required", params) ∈ e.2.listed) →
        ∃ report, (v.validate env data entries).value = .ok report ∧
          report.fieldErrors field ≠ [] ∧ report.value? field = none) := by
  refine ⟨fun seen hseen => ?_, fun hblank hg entries hu hr => ?_⟩
  · have hp : v.prepared data field = seen := hseen.prepare_eq
    have ha : (v.prepared data field).isAbsent = true := by
      rw [hp]
      exact hseen.isAbsent
    refine ⟨fun rules report ho => ?_, fun entries hu hl ho => ?_⟩
    · exact ⟨_, runEntry_of_isAbsent ha ho report, report.settle_errors field _⟩
    · have hv := @validate_of_no_mistake v env data entries (firstMistake?_eq_none_iff.2 hu)
      have hm := (fieldErrors_eq_nil_iff hv field).2 fun entry he hf =>
        failures_of_isAbsent ha (ho entry he hf)
      refine ⟨_, hv, hm, ?_⟩
      rw [value?_validate hv, if_pos ⟨hl, hm⟩, hp]
  · have hv := @validate_of_no_mistake v env data entries (firstMistake?_eq_none_iff.2 hu)
    obtain ⟨entry, he, hf, params, hp⟩ := hr
    have hm : (v.reportAfter env data .empty entries).fieldErrors field ≠ [] := fun hm =>
      failures_of_isBlank hblank hg hp ((fieldErrors_eq_nil_iff hv field).1 hm entry he hf)
    refine ⟨_, hv, hm, ?_⟩
    rw [value?_validate hv, if_neg fun h => hm h.2]

theorem verdict_of_padding :
    let v : Validator :=
      { new with registry := new.registry.insert ⟨"uuid", fun _ _ _ => false, "No."⟩ }
    let data : Data := .ofList [("a", .text " \t")]
    let optional : List Entry := [("a", .text "uuid|min:3"), ("b", .text "alpha"), ("a", .text "")]
    let demanded : List Entry := [("a", .text "uuid"), ("a", .text "max:2|required")]
    v.SeesAbsent (data.get? "a") (.text "") ∧ IsBlank (data.get? "a") ∧
      (∃ after, v.runEntry .bare data .empty ("a", .text "uuid|min:3") = pure (.ok after) ∧
        after.errors = .empty) ∧
      (∃ report, (v.validate .bare data optional).value = .ok report ∧
        report.fieldErrors "a" = [] ∧ report.value? "a" = some (.text "")) ∧
      ∃ report, (v.validate .bare data demanded).value = .ok report ∧
        report.fieldErrors "a" ≠ [] ∧ report.value? "a" = none := by
  intro v data optional demanded
  have hpadding : ∀ c ∈ " \t".toList, isPadding c = true := List.all_eq_true.1 (by decide)
  have hseen : v.SeesAbsent (data.get? "a") (.text "") := .padding rfl hpadding
  have hblank : IsBlank (data.get? "a") := .padding hpadding
  have hrules : (FieldRules.text "uuid|min:3").IsOptional v.registry.has :=
    ⟨.ofList [("uuid", []), ("min", ["3"])], rfl, by decide⟩
  have hnone : (FieldRules.text "").IsOptional v.registry.has := ⟨.empty, rfl, by decide⟩
  have hoptional : ∀ e ∈ optional, e.1 = "a" → e.2.IsOptional v.registry.has := by
    intro e he hf
    simp only [optional, List.mem_cons, List.not_mem_nil, or_false] at he
    rcases he with rfl | rfl | rfl
    · exact hrules
    · exact absurd hf (by decide)
    · exact hnone
  have h := verdict_of_blank_field v .bare data "a"
  obtain ⟨hentry, hrun⟩ := h.1 _ hseen
  exact ⟨hseen, hblank, hentry _ .empty hrules,
    hrun optional (firstMistake?_eq_none_iff.1 rfl) (by decide) hoptional,
    h.2 hblank rfl demanded (firstMistake?_eq_none_iff.1 rfl)
      ⟨("a", .text "max:2|required"), by simp [demanded], rfl, [], by decide⟩⟩

end Validator

end FormCheck
