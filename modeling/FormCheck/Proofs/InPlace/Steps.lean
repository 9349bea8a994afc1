import FormCheck.Config
import FormCheck.Proofs.InPlace.Program
import FormCheck.Proofs.Messages.Loading
import FormCheck.Proofs.Run.Events

/-!
The steps that can fail, as programs in place: each changes a rule list, a translator or a report
as it goes. What they come to at their end is what the functions on values give; what they leave
behind when they fail differs, and only a copy of the state keeps that from sight.
-/
namespace FormCheck

open InPlace

variable {σ : Type}

namespace RuleSpec

def pushInPlace (segment : String) : InPlace RuleSpec Unit :=
  if isBlankSegment segment.toList then throw (.emptySegment segment)
  else match readSegment? segment.toList with
    | none => throw (.namelessSegment segment segment)
    | some (name, params) => modify (·.insert name params)

theorem exec_push (spec : RuleSpec) (segment : String) :
    (pushInPlace segment).exec spec =
      pure (match spec.push segment with
        | .ok spec => (.ok (), spec)
        | .error e => (.error e, spec)) := by
  rw [pushInPlace, push]
  split
  · rfl
  · cases readSegment? segment.toList <;> rfl

def readInPlace (text : String) : List (List Char) → InPlace RuleSpec Unit
  | [] => pure ()
  | segment :: segments =>
    if isBlankSegment segment then readInPlace text segments
    else match readSegment? segment with
      | none => throw (.namelessSegment text (String.ofList segment))
      | some (name, params) => do
        modify (·.insert name params)
        readInPlace text segments

private theorem settled_read (text : String) (spec : RuleSpec) (segments : List (List Char)) :
    (readInPlace text segments).settled spec = pure (readSegments text spec segments) := by
  induction segments generalizing spec with
  | nil => rfl
  | cons segment segments ih =>
    rw [readInPlace, readSegments]
    split
    · exact ih spec
    · cases readSegment? segment with
      | none => rfl
      | some rule =>
        dsimp only
        rw [settled_bind, exec_modify, pure_bind]
        exact ih _

def parseInPlace (text : String) : InPlace σ RuleSpec :=
  aside (pure .empty) (readInPlace text (Text.splitOn '|' text.toList))

@[simp] theorem exec_parse (text : String) (s : σ) :
    (parseInPlace text).exec s = pure (parse text, s) := by
  rw [parseInPlace, exec_aside, pure_bind, settled_read, pure_bind, parse]

end RuleSpec

def FieldRules.toSpecInPlace : FieldRules → InPlace σ RuleSpec
  | text s => RuleSpec.parseInPlace s
  | spec s => pure s

@[simp] theorem FieldRules.exec_toSpec (rules : FieldRules) (s : σ) :
    rules.toSpecInPlace.exec s = pure (rules.toSpec, s) := by
  cases rules with
  | text text => exact RuleSpec.exec_parse text s
  | spec spec => rfl

namespace Translator

variable {t : Translator} {files : Files.Tree} {locale path : String} {e : Mistake}

def loadFileInPlace (files : Files.Tree) (locale path : String) : InPlace Translator Unit := do
  let table ← attempt (LocaleTable.load files locale path)
  alter (·.insertTable locale table)

def loadFilesInPlace (files : Files.Tree) : List (String × String) → InPlace Translator Unit :=
  forEach fun f => loadFileInPlace files f.1 f.2

theorem failsClean_loadFile (files : Files.Tree) (locale path : String) :
    (loadFileInPlace files locale path).FailsClean :=
  (reads_attempt _).bind_failsClean fun _ => failsClean_alter _

theorem exec_loadFile (t : Translator) (files : Files.Tree) (locale path : String) :
    (loadFileInPlace files locale path).exec t =
      match t.loadFile files locale path with
      | .ok loaded => loaded >>= fun t => pure (.ok (), t)
      | .error e => pure (.error e, t) := by
  rw [loadFileInPlace, exec_bind, exec_attempt, pure_bind, loadFile]
  cases LocaleTable.load files locale path <;> rfl

theorem settled_loadFiles (t : Translator) (files : Files.Tree) (entries : List (String × String)) :
    (loadFilesInPlace files entries).settled t = t.loadFiles files entries := by
  induction entries generalizing t with
  | nil => rfl
  | cons entry rest ih =>
    rw [loadFilesInPlace, settled_forEach_cons, ← loadFilesInPlace, settled, exec_loadFile,
      loadFiles]
    cases t.loadFile files entry.1 entry.2 with
    | error e => rfl
    | ok loaded => simp only [bind_assoc, pure_bind, Except.map, ih]

private theorem value_exec_loadFile (h : ∃ table, LocaleTable.load files locale path = .ok table)
    (t : Translator) :
    ((loadFileInPlace files locale path).exec t).value =
      (.ok (), t.change (.loadFile files locale path)) := by
  obtain ⟨table, h⟩ := h
  rw [exec_loadFile, change, loadFile, h]
  rfl

theorem exec_loadFiles_of_error {before rest : List (String × String)}
    (hb : ∀ f ∈ before, ∃ table, LocaleTable.load files f.1 f.2 = .ok table)
    (he : LocaleTable.load files locale path = .error e) :
    ((loadFilesInPlace files (before ++ (locale, path) :: rest)).exec t).value =
      (.error e, t.after (before.map fun f => .loadFile files f.1 f.2)) := by
  refine exec_forEach_of_error (fun f hf => value_exec_loadFile (hb f hf)) ?_
  rw [after, List.foldl_map, exec_loadFile, loadFile, he]
  rfl

end Translator

namespace Validator

variable (v : Validator) (env : Surroundings) (data : Data)

def runRuleInPlace (field : String) (value : Value) (listed : String × List String) :
    InPlace Report Unit := do
  let rule ← attempt (v.registry.find listed.1)
  if v.fails env data field value rule listed.1 listed.2 then
    note (.ruleFailed field listed.1 value.kind)
    modify (·.addError field (v.message field rule listed.2))

def runRulesInPlace (field : String) (value : Value) :
    List (String × List String) → InPlace Report Unit :=
  forEach (v.runRuleInPlace env data field value)

def runEntryInPlace (entry : Entry) : InPlace Report Unit := do
  let spec ← entry.2.toSpecInPlace
  let value := v.prepared data entry.1
  v.runRulesInPlace env data entry.1 value spec.toList
  modify (·.settle entry.1 value)

def runEntriesInPlace : List Entry → InPlace Report Unit :=
  forEach (v.runEntryInPlace env data)

def validateInPlace (entries : List Entry) : InPlace Report Unit := do
  v.runEntriesInPlace env data entries
  alter fun report => do
    Logged.log (.validationFinished entries.length report.errorCount v.translator.locale)
    pure report

variable {v env data}

private theorem settled_runRules (field : String) (value : Value) (report : Report)
    (rules : List (String × List String)) :
    (v.runRulesInPlace env data field value rules).settled report =
      v.runRules env data field value report rules := by
  induction rules generalizing report with
  | nil => rfl
  | cons listed rules ih =>
    rw [runRulesInPlace, settled_forEach_cons, ← runRulesInPlace, runRuleInPlace, runRules,
      settled_bind, exec_attempt, pure_bind]
    cases v.registry.find listed.1 with
    | error e => rfl
    | ok rule =>
      dsimp only
      split
      · simp only [settled_bind, exec_note, settled_modify, bind_assoc, pure_bind, ih]
      · exact ih report

private theorem settled_runEntry (report : Report) (entry : Entry) :
    (v.runEntryInPlace env data entry).settled report = v.runEntry env data report entry := by
  rw [runEntryInPlace, runEntry, settled_bind, FieldRules.exec_toSpec, pure_bind]
  cases entry.2.toSpec with
  | error e => rfl
  | ok spec =>
    dsimp only
    rw [settled_bind_unit, settled_runRules]
    refine bind_congr fun outcome => ?_
    cases outcome <;> rfl

private theorem settled_runEntries (report : Report) (entries : List Entry) :
    (v.runEntriesInPlace env data entries).settled report =
      v.runEntries env data report entries := by
  induction entries generalizing report with
  | nil => rfl
  | cons entry entries ih =>
    rw [runEntriesInPlace, settled_forEach_cons, ← runEntriesInPlace, runEntries, settled_runEntry]
    refine bind_congr fun outcome => ?_
    cases outcome with
    | error e => rfl
    | ok report => exact ih report

theorem settled_validateInPlace (entries : List Entry) :
    (v.validateInPlace env data entries).settled .empty = v.validate env data entries := by
  rw [validateInPlace, validate, settled_bind_unit, settled_runEntries]
  refine bind_congr fun outcome => ?_
  cases outcome with
  | error e => rfl
  | ok report => exact settled_alter _ report

private theorem exec_runRule_of_known {field : String} {listed : String × List String}
    (h : v.registry.has listed.1 = true) (report : Report) :
    ((v.runRuleInPlace env data field (v.prepared data field) listed).exec report).value =
      (.ok (), report.record v (v.failures env data field [listed])) := by
  rw [Registry.has_eq_isSome] at h
  obtain ⟨rule, hg⟩ := Option.isSome_iff_exists.1 h
  rw [runRuleInPlace, value_exec_bind, exec_attempt, Logged.value_pure, Registry.find, hg,
    Option.elim_some]
  dsimp only
  by_cases hf : v.Fails env data field rule listed.1 listed.2
  · rw [if_pos (fails_iff.2 hf), failures_cons_of_fails hg hf]
    rfl
  · rw [if_neg fun h => hf (fails_iff.1 h), failures_cons_of_not_fails hg hf]
    rfl

private theorem foldl_record_failures (field : String) (report : Report)
    (rules : List (String × List String)) :
    rules.foldl (fun r listed => r.record v (v.failures env data field [listed])) report =
      report.record v (v.failures env data field rules) := by
  induction rules generalizing report with
  | nil => rfl
  | cons listed rules ih =>
    have hf : v.failures env data field (listed :: rules) =
        v.failures env data field [listed] ++ v.failures env data field rules :=
      failures_append field [listed] rules
    rw [List.foldl_cons, ih, hf, Report.record, Report.record, Report.record, List.foldl_append]

private theorem exec_runRules_of_unknown {field name : String} {params : List String}
    {report : Report} {before rest : List (String × List String)}
    (hb : ∀ r ∈ before, v.registry.has r.1 = true) (hn : v.registry.has name = false) :
    ((v.runRulesInPlace env data field (v.prepared data field)
        (before ++ (name, params) :: rest)).exec report).value =
      (.error (.unknownRule name), report.record v (v.failures env data field before)) := by
  rw [Registry.has_eq_isSome, Option.isSome_eq_false_iff, Option.isNone_iff_eq_none] at hn
  refine exec_forEach_of_error (fun r hr => exec_runRule_of_known (hb r hr)) ?_
  rw [foldl_record_failures, runRuleInPlace, value_exec_bind, exec_attempt, Registry.find, hn]
  rfl

private theorem exec_runEntry_of_usable {entry : Entry} (hu : entry.2.Usable v.registry.has)
    (report : Report) :
    ((v.runEntryInPlace env data entry).exec report).value =
      (.ok (), v.reportAfter env data report [entry]) := by
  rw [← value_settled_eq_ok_iff, settled_runEntry, value_runEntry,
    FieldRules.mistake?_eq_none_iff.2 hu, Option.elim_none]

private theorem exec_runEntry_of_faulty {report : Report} {entry : Entry} {m : Mistake}
    (hf : entry.2.Faulty v.registry.has m) :
    ((v.runEntryInPlace env data entry).exec report).value =
      (.error m, report.record v
        (v.failures env data entry.1 (entry.2.reached v.registry.has))) := by
  rw [runEntryInPlace, value_exec_bind, FieldRules.exec_toSpec, Logged.value_pure]
  -- Rules that cannot be read are none that is listed, so nothing is recorded then.
  cases hf with
  | unreadable he =>
    rw [FieldRules.reached, FieldRules.listed, he]
    rfl
  | @unknown list before rest name params hl hs hb hn =>
    have hreached : entry.2.reached v.registry.has = before := by
      rw [FieldRules.reached, FieldRules.listed_of_toSpec hl, hs, List.takeWhile_append_of_pos hb,
        List.takeWhile_cons_of_neg (by simp [hn]), List.append_nil]
    rw [hreached, hl]
    dsimp only
    rw [value_exec_bind, hs, exec_runRules_of_unknown hb hn]

/-- What a run has put into its report when it stops at an entry: all of the entries before it, and
of its own rules the failures up to the fault. -/
private theorem exec_runEntries_of_faulty {report : Report} {before rest : List Entry}
    {entry : Entry} {m : Mistake} (hb : ∀ e ∈ before, e.2.Usable v.registry.has)
    (hf : entry.2.Faulty v.registry.has m) :
    ((v.runEntriesInPlace env data (before ++ entry :: rest)).exec report).value =
      (.error m, (v.reportAfter env data report before).record v
        (v.failures env data entry.1 (entry.2.reached v.registry.has))) :=
  exec_forEach_of_error (fun e he => exec_runEntry_of_usable (hb e he))
    (exec_runEntry_of_faulty hf)

theorem exec_validate_of_faulty {before rest : List Entry} {entry : Entry} {m : Mistake}
    (hb : ∀ e ∈ before, e.2.Usable v.registry.has) (hf : entry.2.Faulty v.registry.has m) :
    ((v.validateInPlace env data (before ++ entry :: rest)).exec .empty).value =
      (.error m, (v.reportAfter env data .empty before).record v
        (v.failures env data entry.1 (entry.2.reached v.registry.has))) := by
  rw [validateInPlace, value_exec_bind, exec_runEntries_of_faulty hb hf]

def ofConfigInPlace (files : Files.Tree) (c : Config) : InPlace σ Validator := do
  let t ← aside (Translator.withFallback c.locale c.fallback) do
    Translator.loadFilesInPlace files c.files.entries
    alter (·.setLocale c.locale)
  note (.configured t.locale c.sanitize c.overrides.size)
  pure ⟨.builtin, t, c.overrides, c.sanitize⟩

theorem exec_ofConfig (files : Files.Tree) (c : Config) (s : σ) :
    (ofConfigInPlace files c).exec s =
      ofConfig files c >>= fun result => pure (result, s) := by
  rw [ofConfigInPlace, ofConfig, exec_bind, exec_aside]
  simp only [settled_bind_unit, Translator.settled_loadFiles, settled_alter, bind_assoc, pure_bind]
  refine bind_congr fun t => ?_
  refine bind_congr fun outcome => ?_
  cases outcome with
  | error e => rfl
  | ok t => simp only [bind_assoc, pure_bind, exec_bind, exec_note, exec_pure]

theorem reads_ofConfig (files : Files.Tree) (c : Config) :
    (ofConfigInPlace files c : InPlace σ Validator).Reads := by
  intro s
  rw [exec_ofConfig, Logged.value_bind, Logged.value_pure]

end Validator

end FormCheck
