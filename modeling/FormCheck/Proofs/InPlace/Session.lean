import FormCheck.Session
import FormCheck.Proofs.InPlace.Steps
import FormCheck.Proofs.Messages.TableFiles

/-!
The commands of a session as programs in place. Whatever can fail works on a report or translator
of its own, or comes before the first change, so a command that fails leaves the session as it was.
-/
namespace FormCheck.Session

open InPlace

variable {s : Session} {env : Surroundings}

def validateInPlace (env : Surroundings) (data : Data) (entries : List Entry) :
    InPlace Session Unit := do
  let s ← get
  let report ← aside (pure .empty) (s.validator.validateInPlace env data entries)
  modify fun s => { s with report }

def configureInPlace (env : Surroundings) (config : Except Mistake Config) :
    InPlace Session Unit := do
  let c ← attempt config
  let validator ← Validator.ofConfigInPlace env.files c
  modify fun s => { s with validator }

def inTranslator (p : InPlace Translator Unit) : InPlace Session Unit :=
  within (·.validator.translator)
    (fun s translator => { s with validator := { s.validator with translator } }) p

def inRegistry (p : InPlace Registry Unit) : InPlace Session Unit :=
  within (·.validator.registry)
    (fun s registry => { s with validator := { s.validator with registry } }) p

def perform (env : Surroundings) : Command → InPlace Session Unit
  | .validate data entries => validateInPlace env data entries
  | .validateJson data rules => do
    let data ← attempt (Data.ofJson data)
    let rules ← attempt (rulesOfJson rules)
    validateInPlace env data rules.entries
  | .takeValidated => modify fun s => { s with report := .empty }
  | .configure settings => configureInPlace env (Config.parse settings)
  | .configureFrom path => configureInPlace env (Config.load env.files path)
  | .setLocale locale => inTranslator (alter (·.setLocale locale))
  | .setSanitize on => modify fun s => { s with validator := { s.validator with sanitizes := on } }
  | .setOverrides overrides =>
    modify fun s => { s with validator := { s.validator with overrides } }
  | .register rule => inRegistry (alter (·.register rule))
  | .insertTable locale table => inTranslator (alter (·.insertTable locale table))
  | .loadFile locale path => inTranslator (Translator.loadFileInPlace env.files locale path)
  | .fork => modify fun s => { s with saved := s.validator :: s.saved }
  | .restore => modify fun s =>
    match s.saved with
    | validator :: saved => ⟨validator, saved, s.report⟩
    | [] => s

def completed (step : Session × Option Mistake) : Except Mistake Unit × Session :=
  (step.2.elim (.ok ()) .error, step.1)

private theorem exec_validate (s : Session) (env : Surroundings) (data : Data)
    (entries : List Entry) :
    (validateInPlace env data entries).exec s =
      completed <$> s.keepReport (s.validator.validate env data entries) := by
  simp only [validateInPlace, exec_bind, exec_get, pure_bind, exec_aside,
    Validator.settled_validateInPlace, bind_assoc, keepReport, map_bind]
  refine bind_congr fun outcome => ?_
  cases outcome <;> rfl

private theorem exec_configure (s : Session) (env : Surroundings) (config : Except Mistake Config) :
    (configureInPlace env config).exec s = completed <$> s.withConfig env config := by
  rw [configureInPlace, exec_bind, exec_attempt, pure_bind]
  cases config with
  | error e => rfl
  | ok c =>
    simp only [exec_bind, Validator.exec_ofConfig, bind_assoc, pure_bind, withConfig, keepValidator,
      map_bind]
    refine bind_congr fun made => ?_
    cases made <;> rfl

private theorem exec_inTranslator_alter (s : Session) (f : Translator → Logged Translator) :
    (inTranslator (alter f)).exec s = completed <$> s.change (do
      pure { s.validator with translator := ← f s.validator.translator }) := by
  simp only [inTranslator, exec_within, exec_alter, change, bind_assoc, pure_bind, map_bind,
    map_pure]
  rfl

theorem exec_loadFile (s : Session) (env : Surroundings) (locale path : String) :
    (inTranslator (Translator.loadFileInPlace env.files locale path)).exec s =
      completed <$> s.run env (.loadFile locale path) := by
  rw [run]
  cases hl : LocaleTable.load env.files locale path with
  | error e =>
    rw [inTranslator, exec_within, Translator.exec_loadFile, Translator.loadFile, hl]
    rfl
  | ok table =>
    have ht : Translator.loadFileInPlace env.files locale path =
        alter (·.insertTable locale table) := by
      rw [Translator.loadFileInPlace, hl]
      rfl
    rw [ht]
    exact exec_inTranslator_alter s _

private theorem exec_perform (s : Session) (env : Surroundings) (c : Command) :
    (perform env c).exec s = completed <$> s.run env c := by
  cases c with
  | validate data entries => exact exec_validate s env data entries
  | validateJson data rules =>
    rw [perform, run, Validator.validateJson, exec_bind, exec_attempt, pure_bind]
    cases Data.ofJson data with
    | error e => rfl
    | ok data =>
      dsimp only
      rw [exec_bind, exec_attempt, pure_bind]
      cases rulesOfJson rules with
      | error e => rfl
      | ok rules => exact exec_validate s env data rules.entries
  | takeValidated => rfl
  | configure settings => exact exec_configure s env (Config.parse settings)
  | configureFrom path => exact exec_configure s env (Config.load env.files path)
  | setLocale locale => exact exec_inTranslator_alter s _
  | setSanitize on => rfl
  | setOverrides overrides => rfl
  | register rule =>
    simp only [perform, inRegistry, exec_within, exec_alter, run, change, Validator.register,
      bind_assoc, pure_bind, map_bind, map_pure]
    rfl
  | insertTable locale table => exact exec_inTranslator_alter s _
  | loadFile locale path => exact exec_loadFile s env locale path
  | fork => rfl
  | restore =>
    rw [perform, run, exec_modify]
    cases s.saved <;> rfl

private theorem failsClean_validate (env : Surroundings) (data : Data) (entries : List Entry) :
    (validateInPlace env data entries).FailsClean :=
  reads_get.bind_failsClean fun _ =>
    (reads_aside _ _).bind_failsClean fun _ => failsClean_modify _

private theorem failsClean_configure (env : Surroundings) (config : Except Mistake Config) :
    (configureInPlace env config).FailsClean :=
  (reads_attempt config).bind_failsClean fun c =>
    (Validator.reads_ofConfig env.files c).bind_failsClean fun _ => failsClean_modify _

private theorem failsClean_inTranslator {p : InPlace Translator Unit} (h : p.FailsClean) :
    (inTranslator p).FailsClean := h.within fun _ => rfl

private theorem failsClean_perform (env : Surroundings) (c : Command) :
    (perform env c).FailsClean := by
  -- What is done aside or only read comes first; a single change of a part of the session is last.
  cases c with
  | validate data entries => exact failsClean_validate env data entries
  | validateJson data rules =>
    exact (reads_attempt _).bind_failsClean fun _ =>
      (reads_attempt _).bind_failsClean fun _ => failsClean_validate env _ _
  | configure settings => exact failsClean_configure env _
  | configureFrom path => exact failsClean_configure env _
  | setLocale locale => exact failsClean_inTranslator (failsClean_alter _)
  | register rule => exact (failsClean_alter _).within fun _ => rfl
  | insertTable locale table => exact failsClean_inTranslator (failsClean_alter _)
  | loadFile locale path =>
    exact failsClean_inTranslator (Translator.failsClean_loadFile env.files locale path)
  | takeValidated | setSanitize _ | setOverrides _ | fork | restore => exact failsClean_modify _

private theorem run_of_failure {c : Command} {e : Mistake} (h : (s.run env c).value.2 = some e) :
    (s.run env c).value.1 = s := by
  have hp := failsClean_perform env c s e
  rw [exec_perform, Logged.value_map] at hp
  exact hp (by rw [completed, h, Option.elim_some])

def after (s : Session) (history : List (Surroundings × Command)) : Session :=
  history.foldl (fun s step => (s.run step.1 step.2).value.1) s

def succeeding (s : Session) : List (Surroundings × Command) → List (Surroundings × Command)
  | [] => []
  | step :: history =>
    let reached := (s.run step.1 step.2).value
    if reached.2.isNone then step :: reached.1.succeeding history else reached.1.succeeding history

private theorem after_succeeding (s : Session) (history : List (Surroundings × Command)) :
    s.after (s.succeeding history) = s.after history := by
  induction history generalizing s with
  | nil => rfl
  | cons step history ih =>
    rw [succeeding]
    cases hr : (s.run step.1 step.2).value.2 with
    | none => exact ih _
    | some e =>
      simp only [Option.isNone_some, Bool.false_eq_true, if_false, run_of_failure hr, ih]
      rw [after, after, List.foldl_cons, run_of_failure hr]

/-- JSON that is decoded for its own sake, or as overrides to be taken up. -/
inductive Decoding where
  | data (json : Json)
  | rules (json : Json)
  | table (locale text : String)
  | config (text : String)
  | configFile (path : String)
  | overrides (json : Json)

def decode (env : Surroundings) : Decoding → InPlace Session Unit
  | .data json => do let _ ← attempt (Data.ofJson json)
  | .rules json => do let _ ← attempt (rulesOfJson json)
  | .table locale text => do let _ ← attempt (LocaleTable.parse locale text)
  | .config text => do let _ ← attempt (Config.parse text)
  | .configFile path => do let _ ← attempt (Config.load env.files path)
  | .overrides json =>
    match Overrides.decode? json with
    | none => throw (.badJson .undecodable)
    | some overrides => perform env (.setOverrides overrides)

private theorem failsClean_decode (env : Surroundings) (d : Decoding) :
    (decode env d).FailsClean := by
  cases d with
  | overrides json =>
    rw [decode]
    cases Overrides.decode? json with
    | none => exact (reads_throw _).failsClean
    | some overrides => exact failsClean_perform env _
  | _ => exact (reads_attempt _).bind_failsClean fun _ => (reads_pure _).failsClean

private theorem run_configure_of_unloadable {settings locale path : String} {c : Config}
    {before rest : List (String × String)} {e : Mistake} (hc : Config.parse settings = .ok c)
    (hs : c.files.entries = before ++ (locale, path) :: rest)
    (hb : ∀ f ∈ before, ∃ table, LocaleTable.load env.files f.1 f.2 = .ok table)
    (he : LocaleTable.load env.files locale path = .error e) :
    (s.run env (.configure settings)).value = (s, some e) := by
  have hl (t : Translator) : (t.loadFiles env.files c.files.entries).value = .error e := by
    rw [← Translator.settled_loadFiles, value_settled_eq_error_iff, hs,
      Translator.exec_loadFiles_of_error hb he]
  simp only [run, hc, withConfig, keepValidator, Validator.ofConfig, Logged.value_bind, hl,
    Logged.value_pure]

private theorem run_validate_of_faulty {data : Data} {before rest : List Entry} {entry : Entry}
    {e : Mistake} (hb : ∀ b ∈ before, b.2.Usable s.validator.registry.has)
    (hf : entry.2.Faulty s.validator.registry.has e) :
    (s.run env (.validate data (before ++ entry :: rest))).value = (s, some e) := by
  have hv : (s.validator.validate env data (before ++ entry :: rest)).value = .error e := by
    rw [← Validator.settled_validateInPlace, value_settled_eq_error_iff,
      Validator.exec_validate_of_faulty hb hf]
  rw [run, keepReport, Logged.value_bind, hv]
  rfl

/-- For a session that any commands have led to: carrying out a further one in place, where nothing
is taken back, comes to what running it gives, and one that fails leaves the session as it was, as
decoding that fails does. A table fails to load exactly if its file cannot be read, is no UTF-8 or
holds no object of strings, and leaves any translator as it was; a segment that cannot be added
leaves any rule list as it was. Where a later file or entry is at fault, the earlier ones have gone
into a translator or a report that is not the session's. So commands that fail can be left out of a
history. -/
theorem failing_changes_leave_no_trace (history : List (Surroundings × Command)) :
    let s := Session.new.after history
    let known := s.validator.registry.has
    (∀ env c, (perform env c).exec s = completed <$> s.run env c) ∧
    (∀ env c e, (s.run env c).value.2 = some e → (s.run env c).value.1 = s) ∧
    (∀ env d e, ((decode env d).exec s).value.1 = .error e →
      ((decode env d).exec s).value.2 = s) ∧
    (∀ env locale path e, (s.run env (.loadFile locale path)).value.2 = some e ↔
      LocaleTable.Unloadable env.files locale path e) ∧
    (∀ (t : Translator) files locale path e, LocaleTable.Unloadable files locale path e →
      (Translator.loadFileInPlace files locale path).exec t = pure (.error e, t)) ∧
    (∀ (spec : RuleSpec) segment e, spec.push segment = .error e →
      (RuleSpec.pushInPlace segment).exec spec = pure (.error e, spec)) ∧
    (∀ env settings c before locale path rest e, Config.parse settings = .ok c →
      c.files.entries = before ++ (locale, path) :: rest →
      (∀ f ∈ before, ∃ table, LocaleTable.load env.files f.1 f.2 = .ok table) →
      LocaleTable.Unloadable env.files locale path e →
      (∀ t : Translator, ((Translator.loadFilesInPlace env.files c.files.entries).exec t).value =
        (.error e, t.after (before.map fun f => .loadFile env.files f.1 f.2))) ∧
      (s.run env (.configure settings)).value = (s, some e)) ∧
    (∀ env data before entry rest e, (∀ b ∈ before, b.2.Usable known) → entry.2.Faulty known e →
      ((s.validator.validateInPlace env data (before ++ entry :: rest)).exec .empty).value =
        (.error e, (s.validator.reportAfter env data .empty before).record s.validator
          (s.validator.failures env data entry.1 (entry.2.reached known))) ∧
      (s.run env (.validate data (before ++ entry :: rest))).value = (s, some e)) ∧
    Session.new.after (Session.new.succeeding history) = s := by
  intro s known
  refine ⟨exec_perform s, fun env c e => run_of_failure, fun env d => failsClean_decode env d s,
    fun env locale path e => ?_, fun t files locale path e h => ?_, fun spec segment e h => ?_,
    fun env settings c before locale path rest e hc hs hb he => ⟨fun t => ?_, ?_⟩,
    fun env data before entry rest e hb hf => ⟨?_, run_validate_of_faulty hb hf⟩,
    after_succeeding _ history⟩
  · rw [← LocaleTable.load_eq_error_iff, run]
    cases LocaleTable.load env.files locale path <;> simp [change]
  · rw [Translator.exec_loadFile, Translator.loadFile, LocaleTable.load_eq_error_iff.2 h]
    rfl
  · rw [RuleSpec.exec_push, h]
  · rw [hs]
    exact Translator.exec_loadFiles_of_error hb (LocaleTable.load_eq_error_iff.2 he)
  · exact run_configure_of_unloadable hc hs hb (LocaleTable.load_eq_error_iff.2 he)
  · exact Validator.exec_validate_of_faulty hb hf

theorem failures_after_a_loaded_table :
    let files : Files.Tree :=
      .ofList [("pt.json", "\x7b\"required\":\"Falta :field.\"\x7d".toUTF8),
        ("list.json", "[1]".toUTF8), ("bytes.json", ⟨#[0xFF]⟩)]
    let env : Surroundings := ⟨files, Surroundings.bare.now⟩
    let history : List (Surroundings × Command) :=
      [(env, .loadFile "pt" "pt.json"), (env, .loadFile "de" "list.json"), (env, .setLocale "pt")]
    let s := Session.new.after history
    let settings := "\x7b\"locale_files\":\x7b\"pt\":\"pt.json\",\"de\":\"list.json\"\x7d\x7d"
    let spec : RuleSpec := .ofList [("required", [])]
    s.validator.translator.locale = "pt" ∧
      (s.run env (.loadFile "de" "none.json")).value.2 =
        some (.unreadable "none.json" .notFound) ∧
      (s.run env (.loadFile "de" "bytes.json")).value.2 =
        some (.unreadable "bytes.json" .notText) ∧
      (s.run env (.loadFile "de" "list.json")).value.1 = s ∧
      (Translator.loadFileInPlace files "de" "list.json").exec s.validator.translator =
        pure (.error (.badTable "de"), s.validator.translator) ∧
      ((decode env (.overrides (.bool true))).exec s).value.2 = s ∧
      (RuleSpec.pushInPlace ":3").exec spec = pure (.error (.namelessSegment ":3" ":3"), spec) ∧
      (s.run env (.configure settings)).value = (s, some (.badTable "de")) ∧
      (s.run env (.validate .empty
        [("a", .spec spec), ("b", .spec (.ofList [("none", [])]))])).value =
        (s, some (.unknownRule "none")) := by
  intro files env history s settings spec
  obtain ⟨-, hfail, hdecode, hload, htable, hpush, hconfig, hrun, -⟩ :=
    failing_changes_leave_no_trace history
  have hbytes :
      LocaleTable.Unloadable files "de" "bytes.json" (.unreadable "bytes.json" .notText) :=
    @LocaleTable.Unloadable.notText _ _ _ ⟨#[0xFF]⟩ (by decide +kernel) (by decide +kernel)
  have hlist : LocaleTable.Unloadable files "de" "list.json" (.badTable "de") :=
    @LocaleTable.Unloadable.notStrings _ _ _ "[1]".toUTF8 "[1]" (by decide +kernel)
      (by decide +kernel) (by decide +kernel)
  have hp : RuleSpec.push spec ":3" = .error (.namelessSegment ":3" ":3") := rfl
  have hc : (Config.parse settings).toOption.map (·.files.entries) =
      some [("pt", "pt.json"), ("de", "list.json")] := by decide +kernel
  obtain ⟨c, hc, hfiles⟩ := Option.map_eq_some_iff.1 hc
  have hc : Config.parse settings = .ok c := by
    generalize Config.parse settings = parsed at hc
    cases parsed <;> cases hc
    rfl
  have hpt : Config.Loads files { files := .ofList [("pt", "pt.json")] } := by decide +kernel
  have hs : s.validator.translator.locale = "pt" := by decide +kernel
  have hfaulty : (FieldRules.spec (.ofList [("none", [])])).Faulty s.validator.registry.has
      (.unknownRule "none") :=
    @FieldRules.Faulty.unknown _ _ (.ofList [("none", [])]) [] [] "none" [] rfl rfl (by simp)
      (by decide +kernel)
  have husable : (FieldRules.spec spec).Usable s.validator.registry.has :=
    ⟨spec, rfl, by decide +kernel⟩
  refine ⟨hs, (hload env "de" "none.json" _).2 (.unreadable (by decide +kernel)),
    (hload env "de" "bytes.json" _).2 hbytes,
    hfail env _ _ ((hload env "de" "list.json" _).2 hlist), htable _ files "de" "list.json" _ hlist,
    hdecode env (.overrides (.bool true)) (.badJson .undecodable) rfl,
    hpush spec ":3" _ hp, ?_, ?_⟩
  · exact (hconfig env settings c [("pt", "pt.json")] "de" "list.json" [] _ hc hfiles hpt hlist).2
  · exact (hrun env .empty [("a", .spec spec)] ("b", .spec (.ofList [("none", [])])) [] _
      (by simpa using husable) hfaulty).2

end FormCheck.Session
