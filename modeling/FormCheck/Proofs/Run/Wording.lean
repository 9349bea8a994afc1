import FormCheck.Proofs.Run.Grouping

/-!
What the translator and the overrides decide. They word the messages of a run and change nothing
else about it: two runs that differ in them alone report the same failures.
-/
namespace FormCheck

/-- Two reports of the same failures, the one in the words of `v` and the other in those of `w`. -/
structure Report.Rewords (log : List Failure) (v w : Validator) (r s : Report) : Prop where
  isValid : r.isValid = s.isValid
  fields : r.errors.keys = s.errors.keys
  messages : ∀ field, r.fieldErrors field = (log.filter fun f => f.field == field).map v.wording ∧
    s.fieldErrors field = (log.filter fun f => f.field == field).map w.wording
  errorCount : r.errorCount = s.errorCount
  validated : r.validated = s.validated

namespace Validator

variable {v : Validator} {env : Surroundings} {data : Data} {report : Report}
  {entries : List Entry}

private theorem rewords_of_failureLog_eq {w : Validator} {r s : Report}
    (hs : v.sanitizes = w.sanitizes)
    (hl : v.failureLog env data entries = w.failureLog env data entries)
    (hv : (v.validate env data entries).value = .ok r)
    (hw : (w.validate env data entries).value = .ok s) :
    Report.Rewords (v.failureLog env data entries) v w r s := by
  have hfields : r.errors.keys = s.errors.keys := by
    rw [errors_keys hv, errors_keys hw, hl]
  have hmessages := fieldErrors_eq_map hw
  rw [← hl] at hmessages
  refine ⟨?_, hfields, fun field => ⟨fieldErrors_eq_map hv field, hmessages field⟩, ?_, ?_⟩
  · rw [Bool.eq_iff_iff, isValid_iff_failureLog_eq_nil hv, isValid_iff_failureLog_eq_nil hw, hl]
  · rw [Report.errorCount_eq_foldl, Report.errorCount_eq_foldl, hfields]
    congr 1
    funext count field
    rw [fieldErrors_eq_map hv, hmessages, List.length_map, List.length_map]
  · apply OrderedMap.ext
    rw [validated_entries hv, validated_entries hw, hl]
    congr 1
    funext field
    rw [prepared, prepared, prepare_congr hs]

/-- Another translator and other overrides change the wording of the messages and nothing else. -/
theorem validate_rewords (v : Validator) (translator : Translator) (overrides : Overrides)
    (env : Surroundings) (data : Data) (entries : List Entry) :
    let w : Validator := { v with translator, overrides }
    (∃ m, (v.validate env data entries).value = .error m ∧
      (w.validate env data entries).value = .error m) ∨
    ∃ r s, (v.validate env data entries).value = .ok r ∧
      (w.validate env data entries).value = .ok s ∧
      Report.Rewords (v.failureLog env data entries) v w r s := by
  intro w
  have hl : v.failureLog env data entries = w.failureLog env data entries :=
    failureLog_congr (v := v) (w := w) rfl rfl entries
  cases hm : firstMistake? v.registry.has entries with
  | some m => exact .inl ⟨m, validate_eq_error_iff.2 hm, validate_eq_error_iff.2 hm⟩
  | none =>
    have hv := @validate_of_no_mistake v env data entries hm
    have hw := @validate_of_no_mistake w env data entries hm
    exact .inr ⟨_, _, hv, hw, rewords_of_failureLog_eq rfl hl hv hw⟩

end Validator

end FormCheck
