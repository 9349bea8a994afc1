import FormCheck.Proofs.Run.Footprint

/-!
A run over the values that a run handed back. Values that were cleaned once are clean, and a field
that was missing is as null as the null it left behind, so nothing new is found.
-/
namespace FormCheck.Validator

variable {v : Validator} {env : Surroundings} {data data' : Data} {report : Report}
  {entries : List Entry}

private theorem reportAfter_congr (report : Report)
    (h : ∀ entry ∈ entries, v.AgreeOn entry.2 entry.1 data data') :
    v.reportAfter env data report entries = v.reportAfter env data' report entries := by
  induction entries generalizing report with
  | nil => rfl
  | cons entry entries ih =>
    obtain ⟨he, hes⟩ := List.forall_mem_cons.1 h
    change v.reportAfter env data
        ((report.record v (v.failures env data entry.1 entry.2.listed)).settle entry.1
          (v.prepared data entry.1)) entries = _
    rw [he.failures_eq, he.own]
    exact ih _ hes

private theorem validate_congr (h : ∀ entry ∈ entries, v.AgreeOn entry.2 entry.1 data data') :
    (v.validate env data entries).value = (v.validate env data' entries).value := by
  rw [value_validate, value_validate, reportAfter_congr .empty h]

private theorem value?_of_isValid (h : (v.validate env data entries).value = .ok report)
    (hr : report.isValid = true) {field : String} (hf : field ∈ entries.map Prod.fst) :
    report.value? field = some (v.prepared data field) := by
  have hm : report.fieldErrors field = [] := by
    rw [fieldErrors_eq_map h, (isValid_iff_failureLog_eq_nil h).1 hr]
    rfl
  rw [value?_validate h, if_pos ⟨hf, hm⟩]

private theorem prepared_validated (h : (v.validate env data entries).value = .ok report)
    (hr : report.isValid = true) {field : String} (hf : field ∈ entries.map Prod.fst) :
    v.prepared report.validated field = v.prepared data field := by
  have hg : report.validated.get? field = some (v.prepared data field) :=
    value?_of_isValid h hr hf
  rw [prepared, hg, Option.getD_some, prepared, prepare_prepare]

/-- A valid report is reported again for its values, if each field that rules compare another one
with is listed. -/
theorem validate_validated (h : (v.validate env data entries).value = .ok report)
    (hr : report.isValid = true)
    (hc : ∀ entry ∈ entries, ∀ other, entry.2.Consults entry.1 other →
      other ∈ entries.map Prod.fst) :
    (v.validate env report.validated entries).value = .ok report := by
  have ha : ∀ entry ∈ entries, v.AgreeOn entry.2 entry.1 report.validated data := by
    intro entry hm
    exact ⟨prepared_validated h hr (List.mem_map_of_mem hm),
      fun other ho => prepared_validated h hr (hc entry hm other ho)⟩
  rw [validate_congr ha, h]

theorem validate_validated_of_repeated_field :
    let data : Data := .ofList [("x", .null), ("a_confirmation", .text "<R&amp;D>"),
      ("d", .list [.text " & ", .list [.text "'"]]), ("a", .text " <R&amp;D>\n")]
    let entries : List Entry :=
      [("a", .text "required|confirmed"), ("c", .text "different:a|uuid"),
        ("a_confirmation", .text "filled"), ("d", .text "required"), ("a", .text "same:a")]
    ∃ report, (new.validate .bare data entries).value = .ok report ∧ report.isValid = true ∧
      report.validated.entries = [("a", .text "&lt;R&amp;D&gt;"), ("c", .null),
        ("a_confirmation", .text "&lt;R&amp;D&gt;"),
        ("d", .list [.text "&amp;", .list [.text "&#039;"]])] ∧
      (new.validate .bare report.validated entries).value = .ok report := by
  intro data entries
  have hn : firstMistake? new.registry.has entries = none := by rfl
  have hv := @validate_of_no_mistake new .bare data entries hn
  have hr := (isValid_iff_failureLog_eq_nil hv).2 rfl
  have hc : ∀ entry ∈ entries, ∀ other ∈ entry.2.consulted entry.1,
      other ∈ entries.map Prod.fst := by
    decide
  have h := validate_validated hv hr fun entry hm other ho =>
    hc entry hm other (FieldRules.consults_iff.1 ho)
  exact ⟨_, hv, hr, validated_entries hv, h⟩

end FormCheck.Validator
