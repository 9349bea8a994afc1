import FormCheck.Proofs.Rules.Composed
import FormCheck.Proofs.Run.Grouping

/-!
Rules appended to a rule text. A segment with a new name is read behind the rules that were there,
so a run gives the field the messages it had, and one more at most.
-/
namespace FormCheck

namespace RuleSpec

variable {text : String} {spec : RuleSpec} {rule : String × List String}

private theorem parse_append_segment {segment : String} (h : parse text = .ok spec)
    (hbar : '|' ∉ segment.toList) (hr : readSegment? segment.toList = some rule) :
    parse (text ++ "|" ++ segment) = .ok (spec.insert rule.1 rule.2) :=
  parse_append h (parse_of_readSegment? hbar hr)

private theorem toList_insert {name : String} (h : name ∉ spec.toList.map Prod.fst)
    (params : List String) : (spec.insert name params).toList = spec.toList ++ [(name, params)] :=
  Assoc.put_of_not_mem h

end RuleSpec

namespace FieldRules

variable {known : String → Bool} {t g name : String} {params : List String}
  (h : (text t).Usable known) (hbar : '|' ∉ g.toList)
  (hg : RuleSpec.readSegment? g.toList = some (name, params))
  (hnew : name ∉ (text t).listed.map Prod.fst)
include h hbar hg hnew

private theorem toSpec_append : ∃ list, (text (t ++ "|" ++ g)).toSpec = .ok list ∧
    list.toList = (text t).listed ++ [(name, params)] := by
  obtain ⟨list, hl, -⟩ := h
  rw [listed_of_toSpec hl] at hnew ⊢
  exact ⟨_, RuleSpec.parse_append_segment hl hbar hg, RuleSpec.toList_insert hnew params⟩

private theorem listed_append :
    (text (t ++ "|" ++ g)).listed = (text t).listed ++ [(name, params)] := by
  obtain ⟨list, hl, hr⟩ := toSpec_append h hbar hg hnew
  rw [listed_of_toSpec hl, hr]

private theorem usable_append (hk : known name = true) : (text (t ++ "|" ++ g)).Usable known := by
  obtain ⟨list, hl, hr⟩ := toSpec_append h hbar hg hnew
  obtain ⟨old, ho, hknown⟩ := h
  refine ⟨list, hl, fun r hm => ?_⟩
  rw [hr, listed_of_toSpec ho, List.mem_append, List.mem_singleton] at hm
  rcases hm with hm | rfl
  · exact hknown r hm
  · exact hk

end FieldRules

namespace Validator

variable {v : Validator} {env : Surroundings} {data : Data} {field : String} {rules : FieldRules}
  {before after : List Entry}

private theorem fieldMessages_of_not_listed (h : ∀ e ∈ after, e.1 ≠ field) :
    v.fieldMessages env data field after = [] := by
  have hnone : after.filter (fun e => e.1 == field) = [] := by
    rw [List.filter_eq_nil_iff]
    intro e he
    simpa using h e he
  rw [fieldMessages, filter_failureLog, hnone]
  rfl

private theorem firstMistake?_insert (hu : ∀ e ∈ before ++ after, e.2.Usable v.registry.has)
    (hr : rules.Usable v.registry.has) :
    firstMistake? v.registry.has (before ++ (field, rules) :: after) = none := by
  rw [firstMistake?_eq_none_iff]
  intro e he
  simp only [List.mem_append, List.mem_cons] at he hu
  rcases he with he | rfl | he
  · exact hu e (.inl he)
  · exact hr
  · exact hu e (.inr he)

private theorem fieldErrors_insert {report : Report} (hafter : ∀ e ∈ after, e.1 ≠ field)
    (h : (v.validate env data (before ++ (field, rules) :: after)).value = .ok report) :
    report.fieldErrors field = v.fieldMessages env data field before ++
      (v.failures env data field rules.listed).map v.wording := by
  rw [fieldErrors_validate h, fieldMessages_append_cons, fieldMessages_of_not_listed hafter,
    List.append_nil]

private theorem value?_insert {report : Report}
    (h : (v.validate env data (before ++ (field, rules) :: after)).value = .ok report) :
    report.value? field =
      if report.fieldErrors field = [] then some (v.prepared data field) else none := by
  have hlisted : field ∈ (before ++ (field, rules) :: after).map Prod.fst := by simp
  rw [value?_validate h]
  simp only [hlisted, true_and]

/-- Whatever stands in the text before it, in the other entries and in the record: a rule with a new
name, appended to the text in the last entry of a field, gives the field one message more if the
field fails it and none otherwise, and takes the value of the field away if it fails. -/
theorem appended_rule_adds_behind (v : Validator) (env : Surroundings) (data : Data)
    (before after : List Entry) (field t g name : String) (params : List String) (rule : Rule)
    (ht : (FieldRules.text t).Usable v.registry.has) (hbar : '|' ∉ g.toList)
    (hg : RuleSpec.readSegment? g.toList = some (name, params))
    (hr : v.registry.get? name = some rule)
    (hnew : name ∉ (FieldRules.text t).listed.map Prod.fst)
    (hu : ∀ e ∈ before ++ after, e.2.Usable v.registry.has) (hafter : ∀ e ∈ after, e.1 ≠ field) :
    ∃ r s, (v.validate env data (before ++ (field, .text t) :: after)).value = .ok r ∧
      (v.validate env data (before ++ (field, .text (t ++ "|" ++ g)) :: after)).value = .ok s ∧
      s.fieldErrors field = r.fieldErrors field ++
        (if v.Fails env data field rule name params then [v.message field rule params] else []) ∧
      (¬v.Fails env data field rule name params ∧ r.fieldErrors field = [] →
        ∃ value, r.value? field = some value ∧ s.value? field = some value) ∧
      (v.Fails env data field rule name params ∨ r.fieldErrors field ≠ [] →
        s.value? field = none) := by
  have hk := Registry.has_of_get? hr
  have hrun := @validate_of_no_mistake v env data _ (@firstMistake?_insert v field _ _ _ hu ht)
  have hrun' := @validate_of_no_mistake v env data _
    (@firstMistake?_insert v field _ _ _ hu (FieldRules.usable_append ht hbar hg hnew hk))
  -- The messages of the longer text are those of the shorter one and what the new rule adds.
  have hmessages := fieldErrors_insert hafter hrun'
  rw [FieldRules.listed_append ht hbar hg hnew, failures_append, List.map_append,
    map_wording_failures_singleton hr, ← List.append_assoc,
    ← fieldErrors_insert hafter hrun] at hmessages
  refine ⟨_, _, hrun, hrun', hmessages, fun ⟨hf, hn⟩ => ?_, fun hf => ?_⟩
  · rw [value?_insert hrun, value?_insert hrun', hmessages, hn, if_neg hf]
    exact ⟨_, rfl, rfl⟩
  · rw [value?_insert hrun', hmessages, if_neg]
    rw [List.append_eq_nil_iff]
    rintro ⟨hn, hm⟩
    rcases hf with hf | hf
    · rw [if_pos hf] at hm
      cases hm
    · exact hf hn

theorem appended_choice_adds_behind :
    let data : Data := .ofList [("a", .text "x1"), ("b", .null)]
    ∃ r s, (new.validate .bare data [("a", .text "filled"),
        ("a", .text "uuid:x|alpha|uuid: |"), ("b", .text "ip")]).value = .ok r ∧
      (new.validate .bare data [("a", .text "filled"),
        ("a", .text ("uuid:x|alpha|uuid: |" ++ "|" ++ " in : a:b , c ")),
        ("b", .text "ip")]).value = .ok s ∧
      s.fieldErrors "a" =
        r.fieldErrors "a" ++ ["The a field must be one of the following: a:b, c."] ∧
      s.value? "a" = none := by
  intro data
  have ht : (FieldRules.text "uuid:x|alpha|uuid: |").Usable new.registry.has :=
    ⟨.ofList [("uuid", []), ("alpha", [])], rfl, by decide⟩
  have hfails : new.Fails .bare data "a"
      ⟨"in", .ofParams Checks.oneOf, "The :field field must be one of the following: :allowed."⟩
      "in" ["a:b", "c"] := by decide
  obtain ⟨r, s, hr, hs, hm, -, hv⟩ := appended_rule_adds_behind new .bare data
    [("a", .text "filled")] [("b", .text "ip")] "a" "uuid:x|alpha|uuid: |" " in : a:b , c " "in"
    ["a:b", "c"] _ ht (by decide) rfl rfl (by decide) (firstMistake?_eq_none_iff.1 rfl) (by decide)
  rw [if_pos hfails] at hm
  exact ⟨r, s, hr, hs, hm, hv (.inl hfails)⟩

end Validator

end FormCheck
