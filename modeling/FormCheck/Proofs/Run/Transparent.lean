import FormCheck.Proofs.Checks.Alphabet
import FormCheck.Proofs.Run.Absent

/-!
Runs that clean values, over rules that admit no character of markup. Such a rule says of the
cleaned text what it says of the text with its padding cut off, so its verdict does not show that the
text was escaped.
-/
namespace FormCheck.Validator

variable {v : Validator} {env : Surroundings} {data : Data} {field name s : String} {rule : Rule}
  {params : List String}

private theorem prepared_text (hv : v.sanitizes = true) (hs : data.get? field = some (.text s)) :
    v.prepared data field = .text (sanitizeText s) := by
  rw [prepared, hs, Option.getD_some, prepare_of_sanitizes hv, Value.sanitize]

private theorem isAbsent_sanitizeText (hs : stripPadding s.toList ≠ []) :
    (Value.text (sanitizeText s)).isAbsent = false := by
  have hne : (sanitizeText s).toList ≠ [] := by
    rw [toList_sanitizeText, ne_eq, Markup.escapeChars_eq_nil_iff]
    exact hs
  simpa [Value.isAbsent] using hne

private theorem fails_text_iff (hv : v.sanitizes = true) (hd : data.get? field = some (.text s))
    (hs : stripPadding s.toList ≠ []) (hn : isCrossField name = false) :
    v.Fails env data field rule name params ↔
      rule.test env (.text (sanitizeText s)) params = false := by
  rw [← fails_iff, prepared_text hv hd, fails_of_not_isCrossField hn, isAbsent_sanitizeText hs]
  simp

private theorem isCrossField_of_not_demanding (hn : name ∉ demandingNames) :
    isCrossField name = false := by
  rw [← Bool.not_eq_true, isCrossField_iff]
  intro hm
  exact hn (List.mem_cons_of_mem _ (List.mem_cons_of_mem _ hm))

/-- A run that cleans values puts the message of such a rule at the rule's place among the messages
of the field if the rule refuses the text without its padding, and only then. Ten of the built-in
rules are of this kind. -/
theorem cleaning_is_invisible_to_plain_rules (v : Validator) (env : Surroundings) (data : Data)
    (field : String) :
    (∀ (s : String) (before after : List Entry) (rules : FieldRules) (name : String)
        (params : List String) (earlier later : List (String × List String)) (rule : Rule),
      v.sanitizes = true → data.get? field = some (.text s) → stripPadding s.toList ≠ [] →
      (∀ e ∈ before ++ (field, rules) :: after, e.2.Usable v.registry.has) →
      rules.listed = earlier ++ (name, params) :: later → v.registry.get? name = some rule →
      name ∉ demandingNames → rule.test.RefusesMarkup env params →
      ∃ report, (v.validate env data (before ++ (field, rules) :: after)).value = .ok report ∧
        report.fieldErrors field = v.fieldMessages env data field before ++
          (v.failures env data field earlier).map v.wording ++
          (if rule.test env (.text (String.ofList (stripPadding s.toList))) params = false then
            [v.message field rule params] else []) ++
          (v.failures env data field later).map v.wording ++
          v.fieldMessages env data field after) ∧
    ∀ name ∈ plainNames, name ∉ demandingNames ∧ ∃ rule,
      Registry.builtin.get? name = some rule ∧ ∀ env params, rule.test.RefusesMarkup env params := by
  refine ⟨fun s before after rules name params earlier later rule hv hd hs hu hl hg hn ht => ?_,
    fun name hn => ⟨?_, builtin_refusesMarkup name hn⟩⟩
  · have hrun := @validate_of_no_mistake v env data _ (firstMistake?_eq_none_iff.2 hu)
    refine ⟨_, hrun, ?_⟩
    have hfails := @fails_text_iff v env data field name s rule params hv hd hs
      (isCrossField_of_not_demanding hn)
    rw [ht.test_sanitizeText] at hfails
    have hone := @map_wording_failures_singleton v env data field name params rule hg
    simp only [hfails] at hone
    rw [fieldErrors_validate hrun, fieldMessages_append_cons, hl, ← List.singleton_append,
      failures_append, failures_append, List.map_append, List.map_append, hone]
    simp only [List.append_assoc]
  · have hall : ∀ name ∈ plainNames, name ∉ demandingNames := by decide
    exact hall name hn

theorem verdict_of_padded_couple :
    let data : Data := .ofList [("names", .text "\tTom & Ann "), ("n", .text " 7")]
    let entries : List Entry := [("names", .text "required"), ("n", .text "filled"),
      ("names", .text "filled|alpha|required"), ("names", .text "uuid")]
    ∃ report, (new.validate .bare data entries).value = .ok report ∧
      report.fieldErrors "names" = ["The names field may only contain letters.",
        "The names field must be a valid UUID."] := by
  intro data entries
  have hplain : (Test.ofValue (Checks.onText Checks.alpha)).RefusesMarkup .bare [] :=
    .onText (Checks.not_isMarkup_of_all (by decide))
  obtain ⟨report, hv, hm⟩ := (cleaning_is_invisible_to_plain_rules new .bare data "names").1
    "\tTom & Ann " [("names", .text "required"), ("n", .text "filled")] [("names", .text "uuid")]
    (.text "filled|alpha|required") "alpha" [] [("filled", [])] [("required", [])] _ rfl rfl
    (by decide) (firstMistake?_eq_none_iff.1 rfl) rfl rfl (by decide) hplain
  exact ⟨report, hv, hm.trans (by decide +kernel)⟩

end FormCheck.Validator
