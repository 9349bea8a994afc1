import FormCheck.Proofs.OrderedMap
import FormCheck.Proofs.Run.Failures

/-!
How a run ends. It ends in the first mistake of its entries, which the entries and the registered
names fix. Without one it ends in the report that the failures of the entries make.
-/
namespace FormCheck

namespace FieldRules

variable {known : String → Bool} {rules : FieldRules} {m : Mistake}

def Usable (known : String → Bool) (rules : FieldRules) : Prop :=
  ∃ list, rules.toSpec = .ok list ∧ ∀ r ∈ list.toList, known r.1 = true

/-- What is wrong with rules: they cannot be read, or one is the first that is not known. -/
inductive Faulty (known : String → Bool) (rules : FieldRules) : Mistake → Prop where
  | unreadable {m : Mistake} : rules.toSpec = .error m → Faulty known rules m
  | unknown {list : RuleSpec} {before after : List (String × List String)} {name : String}
      {params : List String} : rules.toSpec = .ok list →
      list.toList = before ++ (name, params) :: after → (∀ r ∈ before, known r.1 = true) →
      known name = false → Faulty known rules (.unknownRule name)

def mistake? (known : String → Bool) (rules : FieldRules) : Option Mistake :=
  match rules.toSpec with
  | .error e => some e
  | .ok list => (list.toList.find? fun r => !known r.1).map fun r => .unknownRule r.1

theorem mistake?_eq_none_iff : rules.mistake? known = none ↔ rules.Usable known := by
  unfold mistake? Usable
  cases rules.toSpec <;> simp

theorem mistake?_eq_some_iff : rules.mistake? known = some m ↔ rules.Faulty known m := by
  unfold mistake?
  constructor
  · intro h
    split at h
    · next e he =>
      cases h
      exact .unreadable he
    · next list hl =>
      obtain ⟨⟨name, params⟩, hf, rfl⟩ := Option.map_eq_some_iff.1 h
      obtain ⟨hk, before, after, hs, hb⟩ := List.find?_eq_some_iff_append.1 hf
      refine .unknown hl hs (fun r hr => ?_) ?_
      · simpa using hb r hr
      · simpa using hk
  · intro h
    cases h with
    | unreadable he => simp [he]
    | @unknown list before after name params hl hs hb hk =>
      have hf : list.toList.find? (fun r => !known r.1) = some (name, params) :=
        List.find?_eq_some_iff_append.2
          ⟨by simp [hk], before, after, hs, fun r hr => by simp [hb r hr]⟩
      simp [hl, hf]

end FieldRules

def firstMistake? (known : String → Bool) (entries : List Entry) : Option Mistake :=
  entries.findSome? fun entry => entry.2.mistake? known

theorem firstMistake?_eq_some_iff {known : String → Bool} {entries : List Entry} {m : Mistake} :
    firstMistake? known entries = some m ↔
      ∃ before entry after, entries = before ++ entry :: after ∧
        (∀ e ∈ before, e.2.Usable known) ∧ entry.2.Faulty known m := by
  rw [firstMistake?, List.findSome?_eq_some_iff]
  simp only [FieldRules.mistake?_eq_some_iff, FieldRules.mistake?_eq_none_iff]
  constructor
  · rintro ⟨before, entry, after, hs, hf, hb⟩
    exact ⟨before, entry, after, hs, hb, hf⟩
  · rintro ⟨before, entry, after, hs, hb, hf⟩
    exact ⟨before, entry, after, hs, hf, hb⟩

theorem firstMistake?_eq_none_iff {known : String → Bool} {entries : List Entry} :
    firstMistake? known entries = none ↔ ∀ e ∈ entries, e.2.Usable known := by
  simp only [firstMistake?, List.findSome?_eq_none_iff, FieldRules.mistake?_eq_none_iff]

def Report.record (v : Validator) (report : Report) (failures : List Failure) : Report :=
  failures.foldl (fun r f => r.addError f.field (v.wording f)) report

theorem Registry.has_eq_isSome (r : Registry) (name : String) :
    r.has name = (r.get? name).isSome := rfl

theorem Registry.has_of_get? {r : Registry} {name : String} {rule : Rule}
    (h : r.get? name = some rule) : r.has name = true := by
  rw [has_eq_isSome, h]
  rfl

private theorem Registry.has_insert (r : Registry) (rule : Rule) (name : String) :
    (r.insert rule).has name = (name == rule.name || r.has name) := by
  simp only [has, insert, OrderedMap.contains, OrderedMap.get?_insert]
  split <;> simp_all

namespace Validator

variable (v : Validator) (env : Surroundings) (data : Data) (field : String)

def reportAfter (report : Report) (entries : List Entry) : Report :=
  entries.foldl (fun r entry =>
    (r.record v (v.failures env data entry.1 entry.2.listed)).settle entry.1
      (v.prepared data entry.1)) report

section Rules

variable {v env data field} {report : Report} {listed : String × List String}
  {rules : List (String × List String)} {rule : Rule}

theorem runRules_cons_of_unknown {value : Value} (hg : v.registry.get? listed.1 = none) :
    v.runRules env data field value report (listed :: rules) =
      pure (.error (.unknownRule listed.1)) := by
  simp [runRules, Registry.find, hg]

theorem runRules_cons_of_fails (hg : v.registry.get? listed.1 = some rule)
    (hf : v.Fails env data field rule listed.1 listed.2) :
    v.runRules env data field (v.prepared data field) report (listed :: rules) = (do
      Logged.log (.ruleFailed field listed.1 (v.prepared data field).kind)
      v.runRules env data field (v.prepared data field)
        (report.addError field (v.message field rule listed.2)) rules) := by
  simp [runRules, Registry.find, hg, fails_iff.2 hf]

theorem runRules_cons_of_not_fails (hg : v.registry.get? listed.1 = some rule)
    (hf : ¬v.Fails env data field rule listed.1 listed.2) :
    v.runRules env data field (v.prepared data field) report (listed :: rules) =
      v.runRules env data field (v.prepared data field) report rules := by
  have hb : ¬v.fails env data field (v.prepared data field) rule listed.1 listed.2 = true :=
    fun h => hf (fails_iff.1 h)
  simp [runRules, Registry.find, hg, hb]

end Rules

private theorem value_runRules (report : Report) (rules : List (String × List String)) :
    (v.runRules env data field (v.prepared data field) report rules).value =
      (rules.find? fun r => !v.registry.has r.1).elim
        (.ok (report.record v (v.failures env data field rules)))
        fun r => .error (.unknownRule r.1) := by
  induction rules generalizing report with
  | nil => rfl
  | cons listed rules ih =>
    cases hg : v.registry.get? listed.1 with
    | none =>
      rw [runRules_cons_of_unknown hg, List.find?_cons, Registry.has_eq_isSome, hg]
      rfl
    | some rule =>
      rw [List.find?_cons, Registry.has_eq_isSome, hg]
      by_cases hf : v.Fails env data field rule listed.1 listed.2
      · rw [runRules_cons_of_fails hg hf, Logged.value_bind, ih, failures_cons_of_fails hg hf]
        rfl
      · rw [runRules_cons_of_not_fails hg hf, ih, failures_cons_of_not_fails hg hf]
        rfl

theorem value_runEntry (report : Report) (entry : Entry) :
    (v.runEntry env data report entry).value =
      (entry.2.mistake? v.registry.has).elim
        (.ok (v.reportAfter env data report [entry])) .error := by
  unfold runEntry FieldRules.mistake?
  cases hl : entry.2.toSpec with
  | error e => rfl
  | ok list =>
    have hr : entry.2.listed = list.toList := FieldRules.listed_of_toSpec hl
    simp only [Logged.value_bind, Logged.value_pure, value_runRules]
    cases list.toList.find? fun r => !v.registry.has r.1 with
    | some r => rfl
    | none => simp [Except.map, reportAfter, hr]

theorem value_runEntries (report : Report) (entries : List Entry) :
    (v.runEntries env data report entries).value =
      (firstMistake? v.registry.has entries).elim
        (.ok (v.reportAfter env data report entries)) .error := by
  induction entries generalizing report with
  | nil => rfl
  | cons entry entries ih =>
    have hv := v.value_runEntry env data report entry
    unfold runEntries firstMistake?
    rw [Logged.value_bind, hv, List.findSome?_cons]
    cases entry.2.mistake? v.registry.has with
    | some e => rfl
    | none => exact ih _

theorem value_validate (entries : List Entry) :
    (v.validate env data entries).value =
      (firstMistake? v.registry.has entries).elim
        (.ok (v.reportAfter env data .empty entries)) .error := by
  unfold validate
  rw [Logged.value_bind, value_runEntries]
  cases firstMistake? v.registry.has entries with
  | some e => rfl
  | none => rfl

variable {v env data}

theorem validate_eq_error_iff {entries : List Entry} {m : Mistake} :
    (v.validate env data entries).value = .error m ↔
      firstMistake? v.registry.has entries = some m := by
  rw [value_validate]
  cases firstMistake? v.registry.has entries <;> simp

theorem validate_eq_ok_iff {entries : List Entry} {report : Report} :
    (v.validate env data entries).value = .ok report ↔
      firstMistake? v.registry.has entries = none ∧
        v.reportAfter env data .empty entries = report := by
  rw [value_validate]
  cases firstMistake? v.registry.has entries <;> simp

theorem validate_of_no_mistake {entries : List Entry}
    (h : firstMistake? v.registry.has entries = none) :
    (v.validate env data entries).value = .ok (v.reportAfter env data .empty entries) :=
  validate_eq_ok_iff.2 ⟨h, rfl⟩

/-- Two runs over the same entries with the same registered names end in the same mistake or in
none. It is that of the first entry that cannot be read or names a rule that is not registered. -/
theorem mistake_rests_on_names {v w : Validator}
    (h : ∀ name, v.registry.has name = w.registry.has name) (env env' : Surroundings)
    (data data' : Data) (entries : List Entry) (m : Mistake) :
    ((v.validate env data entries).value = .error m ↔
      (w.validate env' data' entries).value = .error m) ∧
    ((v.validate env data entries).value = .error m ↔
      ∃ before entry after, entries = before ++ entry :: after ∧
        (∀ e ∈ before, e.2.Usable v.registry.has) ∧ entry.2.Faulty v.registry.has m) := by
  have hn : v.registry.has = w.registry.has := funext h
  constructor
  · rw [validate_eq_error_iff, validate_eq_error_iff, hn]
  · rw [validate_eq_error_iff, firstMistake?_eq_some_iff]

theorem mistake_after_failure :
    let lax : Validator :=
      { new with
        sanitizes := false
        registry := new.registry.insert ⟨"required", fun _ _ _ => true, ""⟩ }
    let entries : List Entry := [("a", .text "required"), ("b", .text "min:1|bogus|worse")]
    (∀ name, new.registry.has name = lax.registry.has name) ∧
      (new.validate .bare (.ofList [("a", .text "")]) entries).value =
        .error (.unknownRule "bogus") ∧
      (lax.validate .bare (.ofList [("b", .null)]) entries).value =
        .error (.unknownRule "bogus") := by
  intro lax entries
  have hn : ∀ name, new.registry.has name = lax.registry.has name := by
    intro name
    rw [Registry.has_insert]
    by_cases hr : name = "required"
    · subst hr
      rfl
    · simp [hr]
  have h := mistake_rests_on_names hn .bare .bare (.ofList [("a", .text "")])
    (.ofList [("b", .null)]) entries (.unknownRule "bogus")
  have hfaulty : (FieldRules.text "min:1|bogus|worse").Faulty new.registry.has
      (.unknownRule "bogus") :=
    @FieldRules.Faulty.unknown _ _ (.ofList [("min", ["1"]), ("bogus", []), ("worse", [])])
      [("min", ["1"])] [("worse", [])] "bogus" [] rfl rfl (by decide) (by decide)
  have husable : (FieldRules.text "required").Usable new.registry.has :=
    ⟨.ofList [("required", [])], rfl, by decide⟩
  have he := h.2.2 ⟨[("a", .text "required")], ("b", .text "min:1|bogus|worse"), [], rfl,
    by simpa using husable, hfaulty⟩
  exact ⟨hn, he, h.1.1 he⟩

end Validator

end FormCheck
