import FormCheck.Proofs.Checks.Format
import FormCheck.Proofs.Run.Grouping
import FormCheck.Proofs.Sanitize

/-!
What cleaning does to the verdicts of a run. Rules see the cleaned value, so a text is accepted if
its rule accepts the escaped text. Mail addresses with an ampersand or an apostrophe and JSON texts
with a string are refused for that reason, although their rules accept them as they were sent.
-/
namespace FormCheck

def builtinAccepts (env : Surroundings) (name : String) (value : Value) : Bool :=
  (Registry.builtin.get? name).any fun rule => rule.test env value []

namespace Validator

variable {v : Validator} {env : Surroundings} {data : Data} {field name : String}

theorem validate_single {rules : FieldRules} {params : List String} {rule : Rule}
    (hr : rules.toSpec = .ok (.ofList [(name, params)])) (hg : v.registry.get? name = some rule) :
    ∃ report, (v.validate env data [(field, rules)]).value = .ok report ∧
      (report.hasErrors = false ↔ ¬v.Fails env data field rule name params) := by
  have hk := Registry.has_of_get? hg
  have hm : firstMistake? v.registry.has [(field, rules)] = none := by
    have hl : (RuleSpec.ofList [(name, params)]).toList = [(name, params)] := rfl
    simp [firstMistake?, FieldRules.mistake?, hr, hl, hk]
  have hlog : v.failureLog env data [(field, rules)] =
      v.failures env data field [(name, params)] := by
    have hl : rules.listed = [(name, params)] := FieldRules.listed_of_toSpec hr
    rw [failureLog_cons, hl]
    exact List.append_nil _
  have hv := @validate_of_no_mistake v env data [(field, rules)] hm
  refine ⟨_, hv, ?_⟩
  have hvalid := (collects_validate hv).isValid_iff
  rw [List.map_eq_nil_iff, hlog] at hvalid
  rw [Report.hasErrors, Bool.not_eq_false', hvalid]
  by_cases hf : v.Fails env data field rule name params
  · rw [failures_cons_of_fails hg hf]
    simp [hf]
  · rw [failures_cons_of_not_fails hg hf]
    simp [hf, failures]

private theorem validate_text {s : String} {template : String} {test : List Char → Bool}
    (hr : (FieldRules.text name).toSpec = .ok (.ofList [(name, [])]))
    (hg : Registry.builtin.get? name = some ⟨name, .ofValue (Checks.onText test), template⟩)
    (hn : isCrossField name = false) (hs : s ≠ "")
    (hfirst : s.toList.head?.any isPadding = false)
    (hlast : s.toList.getLast?.any isPadding = false) :
    ∃ report, (new.validate env (.ofList [(field, .text s)]) [(field, .text name)]).value =
        .ok report ∧
      (report.hasErrors = false ↔ test (Markup.escapeChars s.toList) = true) := by
  obtain ⟨report, hv, hf⟩ := @validate_single new env (.ofList [(field, .text s)]) field name
    (.text name) [] _ hr hg
  refine ⟨report, hv, hf.trans ?_⟩
  have hp : new.prepared (.ofList [(field, .text s)]) field = .text (Markup.escape s) := by
    rw [prepared, OrderedMap.get?_ofList_singleton, ← sanitizeText_eq_escape hfirst hlast]
    rfl
  have ha : (Value.text (Markup.escape s)).isAbsent = false := by
    have hne : Markup.escapeChars s.toList ≠ [] := by
      rw [ne_eq, Markup.escapeChars_eq_nil_iff, String.toList_eq_nil_iff]
      exact hs
    rw [Value.isAbsent, Markup.escape]
    simpa using hne
  have ht : Checks.onText test (.text (Markup.escape s)) = test (Markup.escapeChars s.toList) := by
    rw [Checks.onText, Markup.escape, String.toList_ofList]
  rw [← fails_iff, hp, fails_of_not_isCrossField hn]
  simp [ha, Test.ofValue, ht]

private theorem builtin_email :
    Registry.builtin.get? "email" = some ⟨"email", .ofValue (Checks.onText Checks.email),
      "The :field field must be a valid email address."⟩ := rfl

private theorem builtin_json :
    Registry.builtin.get? "json" = some ⟨"json", .ofValue (Checks.onText Checks.json),
      "The :field field must be a valid JSON string."⟩ := rfl

/-- A run on a text without padding at its ends accepts what the rule accepts by itself, unless the
text holds a character that the rule admits and escaping rewrites. -/
theorem verdict_of_form_rules (env : Surroundings) (field s : String) (hs : s ≠ "")
    (hfirst : s.toList.head?.any isPadding = false)
    (hlast : s.toList.getLast?.any isPadding = false) :
    (∃ report, (new.validate env (.ofList [(field, .text s)]) [(field, .text "email")]).value =
        .ok report ∧
      (report.hasErrors = false ↔
        builtinAccepts env "email" (.text s) = true ∧ '&' ∉ s.toList ∧ '\'' ∉ s.toList)) ∧
    ∃ report, (new.validate env (.ofList [(field, .text s)]) [(field, .text "json")]).value =
        .ok report ∧
      (report.hasErrors = false ↔
        builtinAccepts env "json" (.text s) = true ∧ '"' ∉ s.toList) := by
  constructor
  · obtain ⟨report, hv, hf⟩ := @validate_text env field "email" s _ _ rfl builtin_email
      (by decide) hs hfirst hlast
    refine ⟨report, hv, ?_⟩
    rw [hf, Checks.email_escapeChars_iff, builtinAccepts, builtin_email]
    rfl
  · obtain ⟨report, hv, hf⟩ := @validate_text env field "json" s _ _ rfl builtin_json
      (by decide) hs hfirst hlast
    refine ⟨report, hv, ?_⟩
    rw [hf, Checks.json_escapeChars_iff, builtinAccepts, builtin_json]
    rfl

theorem verdict_of_plain_address :
    let s := "ada+list@example.com"
    (s ≠ "" ∧ s.toList.head?.any isPadding = false ∧
      s.toList.getLast?.any isPadding = false) ∧
    (∃ report, (new.validate .bare (.ofList [("mail", .text s)]) [("mail", .text "email")]).value =
      .ok report ∧ report.hasErrors = false) ∧
    ∃ report, (new.validate .bare (.ofList [("mail", .text s)]) [("mail", .text "json")]).value =
      .ok report ∧ report.hasErrors = true := by
  intro s
  have hs : s ≠ "" := by decide
  have hfirst : s.toList.head?.any isPadding = false := by decide
  have hlast : s.toList.getLast?.any isPadding = false := by decide
  obtain ⟨⟨mail, hm, hmail⟩, document, hd, hdocument⟩ :=
    verdict_of_form_rules .bare "mail" s hs hfirst hlast
  refine ⟨⟨hs, hfirst, hlast⟩, ⟨mail, hm, hmail.2 (by decide)⟩, document, hd, ?_⟩
  rw [← Bool.not_eq_false, hdocument]
  decide

/-- The apostrophe of a mail address and the quotes of a JSON text are escaped before their rules
see them, so what the rules accept by themselves is refused by the run. -/
theorem escaping_spoils_address_and_document :
    let address := "o'brien@example.com"
    let document := "\x7b\"a\":1\x7d"
    ¬(∃ report, (new.validate .bare (.ofList [("mail", .text address)])
        [("mail", .text "email")]).value = .ok report ∧
      (report.hasErrors = false ↔ builtinAccepts .bare "email" (.text address) = true)) ∧
    ¬(∃ report, (new.validate .bare (.ofList [("doc", .text document)])
        [("doc", .text "json")]).value = .ok report ∧
      (report.hasErrors = false ↔ builtinAccepts .bare "json" (.text document) = true)) := by
  intro address document
  constructor
  · rintro ⟨report, hv, hf⟩
    obtain ⟨refused, hr, ht⟩ := @validate_text .bare "mail" "email" address _ _ rfl builtin_email
      (by decide) (by decide) (by decide) (by decide)
    cases hv.symm.trans hr
    exact absurd (ht.1 (hf.2 (by decide))) (by decide)
  · rintro ⟨report, hv, hf⟩
    obtain ⟨refused, hr, ht⟩ := @validate_text .bare "doc" "json" document _ _ rfl builtin_json
      (by decide) (by decide) (by decide) (by decide)
    cases hv.symm.trans hr
    exact absurd (ht.1 (hf.2 (by decide))) (by decide)

end Validator

end FormCheck
