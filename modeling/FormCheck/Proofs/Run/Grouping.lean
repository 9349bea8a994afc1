import FormCheck.Proofs.Report
import FormCheck.Proofs.Run.Mistakes

/-!
What a run reports. One entry adds the messages of its failures to the report and settles its
field; over all entries the messages are the failure log grouped by field, and the values are those
of the fields that do not occur in it.
-/
namespace FormCheck

namespace Report

variable {v : Validator} {r : Report}

theorem Collects.record {log : List (String × String)} (h : r.Collects log)
    (failures : List Failure) :
    (r.record v failures).Collects (log ++ failures.map fun f => (f.field, v.wording f)) := by
  induction failures generalizing r log with
  | nil =>
    rw [List.map_nil, List.append_nil]
    exact h
  | cons f failures ih =>
    have hf := ih (h.addError f.field (v.wording f))
    rw [List.append_assoc] at hf
    exact hf

@[simp] theorem record_validated (failures : List Failure) :
    (r.record v failures).validated = r.validated := by
  induction failures generalizing r with
  | nil => rfl
  | cons f failures ih => exact ih

theorem hasFieldErrors_record (failures : List Failure) (field : String) :
    (r.record v failures).hasFieldErrors field =
      (r.hasFieldErrors field || failures.any fun f => f.field == field) := by
  induction failures generalizing r with
  | nil => simp [Report.record]
  | cons f failures ih =>
    have hf := ih (r := r.addError f.field (v.wording f))
    rw [hasFieldErrors_addError] at hf
    rw [List.any_cons, ← Bool.or_assoc, Bool.or_comm (r.hasFieldErrors field),
      BEq.comm (a := f.field)]
    exact hf

end Report

namespace Validator

variable {v : Validator} {env : Surroundings} {data : Data} {report : Report}

theorem failureLog_cons (entry : Entry) (entries : List Entry) :
    v.failureLog env data (entry :: entries) =
      v.failures env data entry.1 entry.2.listed ++ v.failureLog env data entries :=
  List.flatMap_cons

theorem any_failures_of_ne {field other : String} (h : other ≠ field)
    (rules : List (String × List String)) :
    (v.failures env data field rules).any (fun f => f.field == other) = false := by
  rw [List.any_eq_false]
  intro f hf
  rw [field_of_mem_failures hf]
  simpa using Ne.symm h

private theorem collects_reportAfter {log : List (String × String)} (h : report.Collects log)
    (entries : List Entry) :
    (v.reportAfter env data report entries).Collects
      (log ++ (v.failureLog env data entries).map fun f => (f.field, v.wording f)) := by
  induction entries generalizing report log with
  | nil =>
    change report.Collects (log ++ [])
    rw [List.append_nil]
    exact h
  | cons entry entries ih =>
    rw [failureLog_cons, List.map_append, ← List.append_assoc]
    exact ih ((h.record _).settle _ _)

private theorem settled_reportAfter {fields : List String}
    (h : report.Settled fields (v.prepared data)) (entries : List Entry) :
    (v.reportAfter env data report entries).Settled (fields ++ entries.map Prod.fst)
      (v.prepared data) := by
  induction entries generalizing report fields with
  | nil =>
    change report.Settled (fields ++ []) _
    rw [List.append_nil]
    exact h
  | cons entry entries ih =>
    have hs := h.settle (report.record v (v.failures env data entry.1 entry.2.listed)) entry.1
      (Report.record_validated _)
      (fun other ho => by rw [Report.hasFieldErrors_record, any_failures_of_ne ho, Bool.or_false])
      (fun hr => by rw [Report.hasFieldErrors_record, hr, Bool.true_or])
    have he := ih hs
    rw [List.append_assoc] at he
    exact he

theorem collects_validate {entries : List Entry}
    (h : (v.validate env data entries).value = .ok report) :
    report.Collects ((v.failureLog env data entries).map fun f => (f.field, v.wording f)) := by
  rw [← (validate_eq_ok_iff.1 h).2]
  exact collects_reportAfter .empty entries

private theorem settled_validate {entries : List Entry}
    (h : (v.validate env data entries).value = .ok report) :
    report.Settled (entries.map Prod.fst) (v.prepared data) := by
  rw [← (validate_eq_ok_iff.1 h).2]
  exact settled_reportAfter (.empty _) entries

theorem validated_entries {entries : List Entry}
    (h : (v.validate env data entries).value = .ok report) :
    report.validated.entries =
      ((entries.map Prod.fst).eraseDups.filter fun field =>
        (v.failureLog env data entries).all fun f => f.field != field).map
          fun field => (field, v.prepared data field) := by
  rw [(settled_validate h).entries_eq]
  congr 1
  apply List.filter_congr
  intro field _
  have hm : report.hasFieldErrors field = true ↔
      ∃ f ∈ v.failureLog env data entries, f.field = field := by
    rw [(collects_validate h).hasFieldErrors_iff]
    simp
  cases hr : report.hasFieldErrors field <;> simp_all

theorem errors_keys {entries : List Entry}
    (h : (v.validate env data entries).value = .ok report) :
    report.errors.keys = ((v.failureLog env data entries).map Failure.field).eraseDups := by
  rw [(collects_validate h).keys, List.map_map]
  rfl

theorem fieldErrors_eq_map {entries : List Entry}
    (h : (v.validate env data entries).value = .ok report) (field : String) :
    report.fieldErrors field =
      ((v.failureLog env data entries).filter fun f => f.field == field).map v.wording := by
  rw [(collects_validate h).messages, List.filter_map, List.map_map]
  rfl

private theorem filter_failures (field other : String) (rules : List (String × List String)) :
    (v.failures env data other rules).filter (fun f => f.field == field) =
      if other = field then v.failures env data field rules else [] := by
  split
  · next h =>
    subst h
    rw [List.filter_eq_self]
    intro f hf
    rw [field_of_mem_failures hf, beq_self_eq_true]
  · next h =>
    rw [List.filter_eq_nil_iff]
    intro f hf
    rw [field_of_mem_failures hf, beq_iff_eq]
    exact h

theorem filter_failureLog (field : String) (entries : List Entry) :
    (v.failureLog env data entries).filter (fun f => f.field == field) =
      (entries.filter fun e => e.1 == field).flatMap fun e =>
        v.failures env data field e.2.listed := by
  induction entries with
  | nil => rfl
  | cons entry entries ih =>
    rw [failureLog_cons, List.filter_append, ih, filter_failures, List.filter_cons]
    by_cases h : entry.1 = field <;> simp [h]

/-- The messages that a field has from a list of entries. -/
def fieldMessages (v : Validator) (env : Surroundings) (data : Data) (field : String)
    (entries : List Entry) : List String :=
  ((v.failureLog env data entries).filter fun f => f.field == field).map v.wording

theorem fieldErrors_validate {entries : List Entry}
    (h : (v.validate env data entries).value = .ok report) (field : String) :
    report.fieldErrors field = v.fieldMessages env data field entries :=
  fieldErrors_eq_map h field

theorem fieldMessages_append_cons (field : String) (rules : FieldRules)
    (before after : List Entry) :
    v.fieldMessages env data field (before ++ (field, rules) :: after) =
      v.fieldMessages env data field before ++
        (v.failures env data field rules.listed).map v.wording ++
        v.fieldMessages env data field after := by
  have hself : ((field, rules) :: after).filter (fun e => e.1 == field) =
      (field, rules) :: after.filter fun e => e.1 == field :=
    List.filter_cons_of_pos (beq_self_eq_true field)
  simp only [fieldMessages, filter_failureLog, List.filter_append, hself, List.flatMap_append,
    List.flatMap_cons, List.map_append, List.append_assoc]

theorem failures_append (field : String) (rules more : List (String × List String)) :
    v.failures env data field (rules ++ more) =
      v.failures env data field rules ++ v.failures env data field more :=
  List.filterMap_append

theorem map_wording_failures_singleton {field name : String} {params : List String} {rule : Rule}
    (hg : v.registry.get? name = some rule) :
    (v.failures env data field [(name, params)]).map v.wording =
      if v.Fails env data field rule name params then [v.message field rule params] else [] := by
  split
  · next hf =>
    rw [failures_cons_of_fails hg hf]
    rfl
  · next hf =>
    rw [failures_cons_of_not_fails hg hf]
    rfl

theorem fieldErrors_eq_nil_iff {entries : List Entry}
    (h : (v.validate env data entries).value = .ok report) (field : String) :
    report.fieldErrors field = [] ↔
      ∀ entry ∈ entries, entry.1 = field → v.failures env data field entry.2.listed = [] := by
  rw [fieldErrors_eq_map h, List.map_eq_nil_iff, filter_failureLog, List.flatMap_eq_nil_iff]
  simp only [List.mem_filter, beq_iff_eq, and_imp]

theorem isValid_iff_failureLog_eq_nil {entries : List Entry}
    (h : (v.validate env data entries).value = .ok report) :
    report.isValid = true ↔ v.failureLog env data entries = [] := by
  rw [(collects_validate h).isValid_iff, List.map_eq_nil_iff]

theorem value?_validate {entries : List Entry}
    (h : (v.validate env data entries).value = .ok report) (field : String) :
    report.value? field =
      if field ∈ entries.map Prod.fst ∧ report.fieldErrors field = [] then
        some (v.prepared data field)
      else none := by
  have hs := settled_validate h
  have hm : field ∈ report.validated.keys ↔
      field ∈ entries.map Prod.fst ∧ report.fieldErrors field = [] := by
    rw [hs.keys, List.mem_filter, List.mem_eraseDups, (collects_validate h).fieldErrors_eq_nil_iff,
      Bool.not_eq_true']
  split
  · next hf => exact hs.values field (hm.2 hf)
  · next hf => exact OrderedMap.get?_eq_none_iff.2 fun hk => hf (hm.1 hk)

/-- A report is the failure log grouped by field, and the values of the listed fields that have no
failure at any of their entries. -/
theorem report_groups_failures {entries : List Entry}
    (h : (v.validate env data entries).value = .ok report) :
    report.errors.entries =
        groupByField ((v.failureLog env data entries).map fun f => (f.field, v.wording f)) ∧
      report.validated.entries =
        ((entries.map Prod.fst).eraseDups.filter fun field =>
          (v.failureLog env data entries).all fun f => f.field != field).map
            fun field => (field, v.prepared data field) :=
  ⟨(collects_validate h).entries_eq, validated_entries h⟩

theorem report_of_repeated_field :
    let data : Data := .ofList [("a", .text "x1"), ("b", .text "<zz>"), ("c", .text " ")]
    let entries : List Entry :=
      [("a", .text "required"), ("c", .text "uuid"), ("b", .text "same:a|different:a"),
        ("a", .text "filled|alpha")]
    ∃ report, (new.validate .bare data entries).value = .ok report ∧
      report.errors.entries = [("b", ["The b field must match a."]),
        ("a", ["The a field may only contain letters."])] ∧
      report.validated.entries = [("c", .text "")] := by
  intro data entries
  have hn : firstMistake? new.registry.has entries = none := by rfl
  have hv := @validate_of_no_mistake new .bare data entries hn
  have h := report_groups_failures hv
  exact ⟨_, hv, h.1, h.2⟩

end Validator

end FormCheck
