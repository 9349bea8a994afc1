import FormCheck.Proofs.Run.Grouping

/-!
A report at every point of a run. Each field listed so far has messages or a value and not both, so
the questions that can be asked of a report agree with each other.
-/
namespace FormCheck

namespace Report

variable {r s : Report} {fields : List String}

/-- The listed fields are those with messages, none of which has an empty list of them, and those
with a value. -/
structure Accounts (r : Report) (fields : List String) : Prop where
  disjoint : ∀ field ∈ r.errors.keys, field ∉ r.validated.keys
  covers : ∀ field, field ∈ fields ↔ field ∈ r.errors.keys ∨ field ∈ r.validated.keys
  messages_ne_nil : ∀ field ∈ r.errors.keys, r.fieldErrors field ≠ []

/-- Whether a field failed, what its messages are and what its value is say the same, and so do the
questions about all fields. -/
structure AnswersAgree (r : Report) (fields : List String) : Prop where
  fieldErrors : ∀ field, r.hasFieldErrors field = true ↔ r.fieldErrors field ≠ []
  firstError : ∀ field,
    r.hasFieldErrors field = true ↔ ∃ message, r.firstError? field = some message
  value : ∀ field ∈ fields, r.hasFieldErrors field = true ↔ r.value? field = none
  errorCount : r.isValid = true ↔ r.errorCount = 0
  allErrors : r.isValid = true ↔ r.allErrors = []
  validated : r.isValid = true ↔ ∀ field ∈ fields, ∃ value, r.value? field = some value
  count : r.errorCount = r.allErrors.length

private theorem mem_keys_settle {field other : String} {value : Value} :
    other ∈ (r.settle field value).validated.keys ↔
      if other = field then r.hasFieldErrors field = false else other ∈ r.validated.keys := by
  cases hr : r.hasFieldErrors field with
  | true =>
    rw [settle_of_failed hr, OrderedMap.keys_erase, List.mem_filter, bne_iff_ne]
    split <;> simp_all
  | false =>
    rw [settle_of_passed hr, OrderedMap.mem_keys_insert]
    split <;> simp_all

private theorem hasFieldErrors_eq_false_iff {field : String} :
    r.hasFieldErrors field = false ↔ field ∉ r.errors.keys := by
  rw [← hasFieldErrors_iff, Bool.not_eq_true]

private theorem messages_ne_nil_addError (h : ∀ field ∈ r.errors.keys, r.fieldErrors field ≠ [])
    (field message : String) :
    ∀ other ∈ (r.addError field message).errors.keys,
      (r.addError field message).fieldErrors other ≠ [] := by
  intro other hm
  rw [fieldErrors_addError]
  split
  · exact List.append_ne_nil_of_right_ne_nil _ (List.cons_ne_nil _ _)
  · next hne =>
    rw [← hasFieldErrors_iff, hasFieldErrors_addError] at hm
    exact h other (hasFieldErrors_iff.1 (by simpa [hne] using hm))

private theorem messages_ne_nil_record {v : Validator} {failures : List Failure}
    (h : ∀ field ∈ r.errors.keys, r.fieldErrors field ≠ []) :
    ∀ field ∈ (r.record v failures).errors.keys, (r.record v failures).fieldErrors field ≠ [] := by
  induction failures generalizing r with
  | nil => exact h
  | cons f failures ih => exact ih (messages_ne_nil_addError h f.field (v.wording f))

namespace Accounts

theorem empty : Accounts .empty [] where
  disjoint _ hm := nomatch hm
  covers field := by simp [Report.empty, OrderedMap.empty, OrderedMap.keys, Assoc.keys]
  messages_ne_nil _ hm := nomatch hm

/-- Until it is settled again a field may have both a message and the value it passed with before;
then the value is taken away. -/
theorem settle (h : r.Accounts fields) (s : Report) (field : String) (value : Value)
    (hv : s.validated = r.validated)
    (ho : ∀ other, other ≠ field → s.hasFieldErrors other = r.hasFieldErrors other)
    (hm : ∀ other ∈ s.errors.keys, s.fieldErrors other ≠ []) :
    (s.settle field value).Accounts (fields ++ [field]) where
  disjoint other hmem := by
    rw [settle_errors] at hmem
    rw [mem_keys_settle]
    split
    · next heq =>
      subst heq
      rw [hasFieldErrors_iff.2 hmem]
      exact Bool.noConfusion
    · next hne =>
      rw [hv]
      exact h.disjoint other (by rwa [← hasFieldErrors_iff, ← ho other hne, hasFieldErrors_iff])
  covers other := by
    rw [settle_errors, mem_keys_settle, List.mem_append, List.mem_singleton]
    split
    · next heq =>
      subst heq
      simp [hasFieldErrors_eq_false_iff, em]
    · next hne =>
      rw [hv, ← hasFieldErrors_iff, ho other hne, hasFieldErrors_iff, ← h.covers other]
      simp [hne]
  messages_ne_nil other hmem := by
    rw [settle_errors] at hmem
    rw [settle_fieldErrors]
    exact hm other hmem

end Accounts

private theorem value?_eq_none_iff {field : String} :
    r.value? field = none ↔ field ∉ r.validated.keys :=
  OrderedMap.get?_eq_none_iff

theorem errorCount_eq_length (r : Report) : r.errorCount = r.allErrors.length := by
  rw [errorCount, allErrors, List.length_flatten, List.sum_eq_foldl, List.foldl_map]

private theorem allErrors_eq_flatMap (r : Report) :
    r.allErrors = r.errors.keys.flatMap r.fieldErrors := by
  rw [allErrors, OrderedMap.values, r.errors_entries, List.map_map, List.flatMap_def]
  rfl

namespace Accounts

private theorem fieldErrors_iff (h : r.Accounts fields) {field : String} :
    r.hasFieldErrors field = true ↔ r.fieldErrors field ≠ [] := by
  constructor
  · intro hf
    exact h.messages_ne_nil field (hasFieldErrors_iff.1 hf)
  · intro hm
    rw [hasFieldErrors_iff]
    by_contra hn
    rw [Report.fieldErrors, OrderedMap.get?_eq_none_iff.2 hn] at hm
    exact hm rfl

private theorem isValid_iff_allErrors (h : r.Accounts fields) :
    r.isValid = true ↔ r.allErrors = [] := by
  rw [isValid, OrderedMap.isEmpty_iff, allErrors_eq_flatMap, List.flatMap_eq_nil_iff]
  constructor
  · intro hk field hm
    rw [hk] at hm
    cases hm
  · intro hn
    exact List.eq_nil_iff_forall_not_mem.2 fun field hm => h.messages_ne_nil field hm (hn field hm)

private theorem isValid_iff_validated (h : r.Accounts fields) :
    r.isValid = true ↔ ∀ field ∈ fields, ∃ value, r.value? field = some value := by
  simp only [← Option.ne_none_iff_exists', ne_eq, value?_eq_none_iff, not_not]
  rw [isValid, OrderedMap.isEmpty_iff, List.eq_nil_iff_forall_not_mem]
  constructor
  · intro hn field hm
    exact ((h.covers field).1 hm).resolve_left (hn field)
  · intro hv field hm
    exact h.disjoint field hm (hv field ((h.covers field).2 (.inl hm)))

private theorem answersAgree (h : r.Accounts fields) : r.AnswersAgree fields where
  fieldErrors _ := h.fieldErrors_iff
  firstError field := by
    rw [h.fieldErrors_iff, firstError?, ← Option.ne_none_iff_exists', ne_eq, ne_eq,
      List.head?_eq_none_iff]
  value field hm := by
    rw [hasFieldErrors_iff, value?_eq_none_iff]
    exact ⟨h.disjoint field, ((h.covers field).1 hm).resolve_right⟩
  errorCount := by
    rw [errorCount_eq_length, List.length_eq_zero_iff]
    exact h.isValid_iff_allErrors
  allErrors := h.isValid_iff_allErrors
  validated := h.isValid_iff_validated
  count := r.errorCount_eq_length

end Accounts

end Report

namespace Validator

variable {v : Validator} {env : Surroundings} {data : Data} {done rest : List Entry}
  {report after : Report}

/-- The report that a run holds once it is through the entries `done`. -/
inductive Reaches (v : Validator) (env : Surroundings) (data : Data) :
    List Entry → Report → Prop where
  | start : Reaches v env data [] .empty
  | entry {done : List Entry} {report after : Report} {entry : Entry} :
      Reaches v env data done report →
      (v.runEntry env data report entry).value = .ok after →
      Reaches v env data (done ++ [entry]) after

private theorem accounts_runEntry {fields : List String} {entry : Entry}
    (h : report.Accounts fields) (hr : (v.runEntry env data report entry).value = .ok after) :
    after.Accounts (fields ++ [entry.1]) := by
  rw [value_runEntry] at hr
  cases hm : entry.2.mistake? v.registry.has with
  | some m =>
    rw [hm] at hr
    cases hr
  | none =>
    rw [hm] at hr
    cases hr
    refine h.settle _ entry.1 _ (Report.record_validated _) (fun other ho => ?_)
      (Report.messages_ne_nil_record h.messages_ne_nil)
    rw [Report.hasFieldErrors_record, any_failures_of_ne ho, Bool.or_false]

private theorem Reaches.accounts (h : v.Reaches env data done report) :
    report.Accounts (done.map Prod.fst) := by
  induction h with
  | start => exact .empty
  | entry _ hr ih =>
    rw [List.map_append]
    exact accounts_runEntry ih hr

private theorem Reaches.runEntries_append (h : v.Reaches env data done report) (rest : List Entry) :
    (v.runEntries env data .empty (done ++ rest)).value =
      (v.runEntries env data report rest).value := by
  induction h generalizing rest with
  | start => rfl
  | @entry done report after entry _ hr ih =>
    rw [List.append_assoc, ih, List.singleton_append, runEntries, Logged.value_bind, hr]

private theorem reaches_of_runEntries (h : v.Reaches env data done report)
    (hr : (v.runEntries env data report rest).value = .ok after) :
    v.Reaches env data (done ++ rest) after := by
  induction rest generalizing done report with
  | nil =>
    cases hr
    rw [List.append_nil]
    exact h
  | cons entry rest ih =>
    rw [runEntries, Logged.value_bind] at hr
    cases he : (v.runEntry env data report entry).value with
    | error m =>
      rw [he] at hr
      cases hr
    | ok next =>
      rw [he] at hr
      have hs := ih (h.entry he) hr
      rw [List.append_assoc] at hs
      exact hs

private theorem reaches_of_validate {entries : List Entry}
    (h : (v.validate env data entries).value = .ok report) : v.Reaches env data entries report :=
  reaches_of_runEntries .start (by rw [value_runEntries, ← value_validate, h])

/-- Wherever a run stands between two entries, the fields listed so far are those with messages and
those with a value, none is both, and the questions about its report agree. A report that is handed
back is where the run stands behind its last entry. -/
theorem listed_fields_accounted_for (v : Validator) (env : Surroundings) (data : Data) :
    (∀ entries report, (v.validate env data entries).value = .ok report →
      v.Reaches env data entries report) ∧
    ∀ done report, v.Reaches env data done report →
      (∀ rest, (v.runEntries env data .empty (done ++ rest)).value =
        (v.runEntries env data report rest).value) ∧
      report.Accounts (done.map Prod.fst) ∧ report.AnswersAgree (done.map Prod.fst) :=
  ⟨fun _ _ h => reaches_of_validate h,
    fun _ _ h => ⟨h.runEntries_append, h.accounts, h.accounts.answersAgree⟩⟩

theorem relisted_fields_accounted_for :
    let data : Data := .ofList [("a", .text "x1"), ("b", .text "2")]
    let done : List Entry := [("a", .text "required"), ("b", .text "alpha")]
    let entries := done ++ [("c", .text "uuid"), ("a", .text "alpha"), ("b", .text "filled")]
    ∃ report after, (new.validate .bare data done).value = .ok report ∧
      (new.validate .bare data entries).value = .ok after ∧
      (report.Accounts ["a", "b"] ∧ report.AnswersAgree ["a", "b"] ∧
        report.value? "a" = some (.text "x1") ∧ report.errors.keys = ["b"]) ∧
      after.Accounts ["a", "b", "c", "a", "b"] ∧ after.AnswersAgree ["a", "b", "c", "a", "b"] ∧
        after.value? "a" = none ∧ after.errors.keys = ["b", "a"] := by
  intro data done entries
  have hdone : firstMistake? new.registry.has done = none := by rfl
  have hentries : firstMistake? new.registry.has entries = none := by rfl
  have hv := @validate_of_no_mistake new .bare data done hdone
  have hw := @validate_of_no_mistake new .bare data entries hentries
  obtain ⟨hreaches, hpoint⟩ := listed_fields_accounted_for new .bare data
  obtain ⟨-, hreport⟩ := hpoint _ _ (hreaches _ _ hv)
  obtain ⟨-, hafter⟩ := hpoint _ _ (hreaches _ _ hw)
  have hb := hafter.2.value "a" (by decide)
  refine ⟨_, _, hv, hw, ⟨hreport.1, hreport.2, rfl, errors_keys hv⟩, hafter.1, hafter.2, ?_,
    errors_keys hw⟩
  exact hb.1 (Report.hasFieldErrors_iff.2 (by rw [errors_keys hw]; decide))

end Validator

end FormCheck
