import Mathlib.Data.List.TakeWhile
import FormCheck.Proofs.Run.Accounts

/-!
What a run logs. Each failure is logged where the run meets it, and a run that comes to a report
logs its end behind them, so log and report count the same failures. A run that ends in a mistake
has logged the failures in front of it and no end.
-/
namespace FormCheck

private theorem Assoc.length_flatten_put {α : Type} (key : String) (x : α)
    (entries : List (String × List α)) :
    ((put key ((get? key entries).getD [] ++ [x]) entries).map Prod.snd).flatten.length =
      (entries.map Prod.snd).flatten.length + 1 := by
  induction entries with
  | nil => rfl
  | cons e rest ih =>
    obtain ⟨k, items⟩ := e
    by_cases h : k = key
    · simp only [put, get?, h, if_true, Option.getD_some, List.map_cons, List.flatten_cons,
        List.length_append, List.length_singleton]
      omega
    · simp only [put, get?, h, if_false, List.map_cons, List.flatten_cons, List.length_append, ih]
      omega

namespace Report

private theorem errorCount_addError (r : Report) (field message : String) :
    (r.addError field message).errorCount = r.errorCount + 1 := by
  rw [errorCount_eq_length, errorCount_eq_length]
  exact Assoc.length_flatten_put field message r.errors.entries

@[simp] theorem errorCount_settle (r : Report) (field : String) (value : Value) :
    (r.settle field value).errorCount = r.errorCount := by
  rw [errorCount, settle_errors, errorCount]

private theorem errorCount_record (v : Validator) (r : Report) (failures : List Failure) :
    (r.record v failures).errorCount = r.errorCount + failures.length := by
  induction failures generalizing r with
  | nil => rfl
  | cons f failures ih =>
    have hf := ih (r.addError f.field (v.wording f))
    rw [errorCount_addError, Nat.add_right_comm] at hf
    exact hf

end Report

namespace FieldRules

/-- The rules of an entry that a run comes to: those in front of the first that is not known. -/
def reached (known : String → Bool) (rules : FieldRules) : List (String × List String) :=
  rules.listed.takeWhile fun r => known r.1

private theorem reached_of_usable {known : String → Bool} {rules : FieldRules}
    (h : rules.Usable known) : rules.reached known = rules.listed := by
  obtain ⟨list, hl, hk⟩ := h
  rw [reached, listed_of_toSpec hl, List.takeWhile_eq_self_iff]
  exact hk

end FieldRules

namespace Validator

variable {v : Validator} {env : Surroundings} {data : Data} {field : String}

/-- What is logged of a failure: its field, the name that the list calls the rule by, and the kind
of the value that the rule was put to. -/
def eventOf (v : Validator) (data : Data) (f : Failure) : Event :=
  .ruleFailed f.field f.name (v.prepared data f.field).kind

private theorem events_runRules (report : Report) (rules : List (String × List String)) :
    (v.runRules env data field (v.prepared data field) report rules).events =
      (v.failures env data field (rules.takeWhile fun r => v.registry.has r.1)).map
        (v.eventOf data) := by
  induction rules generalizing report with
  | nil => rfl
  | cons listed rules ih =>
    cases hg : v.registry.get? listed.1 with
    | none =>
      have hk : v.registry.has listed.1 = false := by rw [Registry.has_eq_isSome, hg]; rfl
      rw [runRules_cons_of_unknown hg, List.takeWhile_cons, hk]
      rfl
    | some rule =>
      rw [List.takeWhile_cons, Registry.has_of_get? hg, if_pos rfl]
      by_cases hf : v.Fails env data field rule listed.1 listed.2
      · rw [runRules_cons_of_fails hg hf, failures_cons_of_fails hg hf, Logged.events_bind, ih]
        rfl
      · rw [runRules_cons_of_not_fails hg hf, failures_cons_of_not_fails hg hf, ih]

private theorem events_runEntry (report : Report) (entry : Entry) :
    (v.runEntry env data report entry).events =
      (v.failures env data entry.1 (entry.2.reached v.registry.has)).map (v.eventOf data) := by
  unfold runEntry FieldRules.reached FieldRules.listed
  cases entry.2.toSpec with
  | error e => rfl
  | ok list => rw [Logged.events_bind, events_runRules, Logged.events_pure, List.append_nil]

private theorem events_runEntries_append (report : Report) {before : List Entry} (rest : List Entry)
    (h : ∀ e ∈ before, e.2.Usable v.registry.has) :
    (v.runEntries env data report (before ++ rest)).events =
      (v.failureLog env data before).map (v.eventOf data) ++
        (v.runEntries env data (v.reportAfter env data report before) rest).events := by
  induction before generalizing report with
  | nil => rfl
  | cons entry before ih =>
    obtain ⟨hu, hb⟩ := List.forall_mem_cons.1 h
    have hv : (v.runEntry env data report entry).value =
        .ok (v.reportAfter env data report [entry]) := by
      rw [value_runEntry, FieldRules.mistake?_eq_none_iff.2 hu]
      rfl
    rw [List.cons_append, runEntries, Logged.events_bind, hv, events_runEntry,
      FieldRules.reached_of_usable hu, failureLog_cons, List.map_append, List.append_assoc]
    exact congrArg _ (ih _ hb)

theorem events_runEntries_of_faulty (report : Report) {before after : List Entry} {entry : Entry}
    {m : Mistake} (h : ∀ e ∈ before, e.2.Usable v.registry.has)
    (hf : entry.2.Faulty v.registry.has m) :
    (v.runEntries env data report (before ++ entry :: after)).events =
      (v.failureLog env data before ++
        v.failures env data entry.1 (entry.2.reached v.registry.has)).map (v.eventOf data) := by
  rw [events_runEntries_append report _ h, runEntries, Logged.events_bind, events_runEntry,
    value_runEntry, FieldRules.mistake?_eq_some_iff.2 hf, List.map_append]
  exact congrArg _ (List.append_nil _)

variable {entries : List Entry} {report : Report}

private theorem errorCount_reportAfter (report : Report) (entries : List Entry) :
    (v.reportAfter env data report entries).errorCount =
      report.errorCount + (v.failureLog env data entries).length := by
  induction entries generalizing report with
  | nil => rfl
  | cons entry entries ih =>
    have hs := ih ((report.record v (v.failures env data entry.1 entry.2.listed)).settle entry.1
      (v.prepared data entry.1))
    rw [Report.errorCount_settle, Report.errorCount_record, Nat.add_assoc] at hs
    rw [failureLog_cons, List.length_append]
    exact hs

private theorem errorCount_validate (h : (v.validate env data entries).value = .ok report) :
    report.errorCount = (v.failureLog env data entries).length := by
  rw [← (validate_eq_ok_iff.1 h).2, errorCount_reportAfter]
  exact Nat.zero_add _

theorem events_of_ok (h : (v.validate env data entries).value = .ok report) :
    (v.validate env data entries).events =
      (v.failureLog env data entries).map (v.eventOf data) ++
        [.validationFinished entries.length report.errorCount v.translator.locale] := by
  obtain ⟨hm, hr⟩ := validate_eq_ok_iff.1 h
  have hv : (v.runEntries env data .empty entries).value = .ok report := by
    rw [value_runEntries, hm, ← hr]
    rfl
  have he := @events_runEntries_append v env data .empty entries []
    (firstMistake?_eq_none_iff.1 hm)
  rw [List.append_nil] at he
  rw [validate, Logged.events_bind, hv, he]
  exact congrArg (· ++ _) (List.append_nil _)

theorem events_of_error {m : Mistake} (h : (v.validate env data entries).value = .error m) :
    (v.validate env data entries).events = (v.runEntries env data .empty entries).events := by
  rw [validate, Logged.events_bind, value_runEntries, validate_eq_error_iff.1 h]
  exact List.append_nil _

private theorem filter_level_eventOf (level : Level) (failures : List Failure) :
    (failures.map (v.eventOf data)).filter (fun e => e.level = level) =
      if level = .trace then failures.map (v.eventOf data) else [] := by
  split
  · next h => simp [h, eventOf, Event.level]
  · next h => simp [eventOf, Event.level, Ne.symm h]

/-- The log of a run that comes to a report has an event for each failure, in the order in which the
rules are tried, and the summary behind them. The failures are those whose messages the report
groups by field, so its count of messages is that of these events. A run that ends in a mistake has
logged the failures of the rules in front of it. -/
theorem log_tells_the_report (v : Validator) (env : Surroundings) (data : Data)
    (entries : List Entry) :
    let outcome := v.validate env data entries
    (∀ report, outcome.value = .ok report →
      outcome.events = (v.failureLog env data entries).map (v.eventOf data) ++
        [.validationFinished entries.length report.errorCount v.translator.locale] ∧
      report.errors.entries =
        groupByField ((v.failureLog env data entries).map fun f => (f.field, v.wording f)) ∧
      (outcome.events.filter fun e => e.level = .trace).length = report.errorCount ∧
      outcome.events.filter (fun e => e.level = .debug) =
        [.validationFinished entries.length report.errorCount v.translator.locale]) ∧
    ∀ m, outcome.value = .error m → ∃ before entry after, entries = before ++ entry :: after ∧
      (∀ e ∈ before, e.2.Usable v.registry.has) ∧ entry.2.Faulty v.registry.has m ∧
      outcome.events = (v.failureLog env data before ++
        v.failures env data entry.1 (entry.2.reached v.registry.has)).map (v.eventOf data) ∧
      ∀ fields errors locale, .validationFinished fields errors locale ∉ outcome.events := by
  intro outcome
  constructor
  · intro report h
    have he : outcome.events = _ := events_of_ok h
    refine ⟨he, (collects_validate h).entries_eq, ?_, ?_⟩
    · rw [he, List.filter_append, filter_level_eventOf, if_pos rfl, errorCount_validate h]
      simp [Event.level]
    · rw [he, List.filter_append, filter_level_eventOf, if_neg (by decide)]
      rfl
  · intro m h
    obtain ⟨before, entry, after, rfl, hb, hf⟩ :=
      firstMistake?_eq_some_iff.1 (validate_eq_error_iff.1 h)
    have he : outcome.events = _ := (events_of_error h).trans (events_runEntries_of_faulty _ hb hf)
    refine ⟨before, entry, after, rfl, hb, hf, he, ?_⟩
    intro fields errors locale hm
    rw [he] at hm
    simp [eventOf] at hm

theorem log_of_repeated_field :
    let data : Data := .ofList [("a", .text "x1"), ("c", .bool true)]
    let entries : List Entry :=
      [("a", .text "filled|alpha"), ("b", .text "required"), ("a", .text "min:3|same:c")]
    let broken : List Entry :=
      [("a", .text "filled|alpha"), ("b", .text "required|bogus|filled"), ("a", .text "min:3")]
    ∃ report, (new.validate .bare data entries).value = .ok report ∧
      (new.validate .bare data entries).events =
        [.ruleFailed "a" "alpha" "string", .ruleFailed "b" "required" "null",
          .ruleFailed "a" "min" "string", .ruleFailed "a" "same" "string",
          .validationFinished 3 4 "en"] ∧
      ((new.validate .bare data entries).events.filter fun e => e.level = .trace).length =
        report.errorCount ∧
      (new.validate .bare data broken).value = .error (.unknownRule "bogus") ∧
      ∀ fields errors locale,
        .validationFinished fields errors locale ∉ (new.validate .bare data broken).events := by
  intro data entries broken
  have hn : firstMistake? new.registry.has entries = none := by rfl
  have hb : firstMistake? new.registry.has broken = some (.unknownRule "bogus") := by rfl
  have hv := @validate_of_no_mistake new .bare data entries hn
  have hw := (@validate_eq_error_iff new .bare data broken _).2 hb
  have hlog : (new.failureLog .bare data entries).map (new.eventOf data) =
      [.ruleFailed "a" "alpha" "string", .ruleFailed "b" "required" "null",
        .ruleFailed "a" "min" "string", .ruleFailed "a" "same" "string"] := by decide +kernel
  obtain ⟨he, -, hcount, -⟩ := (log_tells_the_report new .bare data entries).1 _ hv
  obtain ⟨_, _, _, -, -, -, -, hend⟩ := (log_tells_the_report new .bare data broken).2 _ hw
  rw [hlog, errorCount_validate hv, ← List.length_map (new.eventOf data), hlog] at he
  exact ⟨_, hv, he, hcount, hw, hend⟩

end Validator

end FormCheck
