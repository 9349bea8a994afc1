import FormCheck.Config

/-!
A validator in use: commands change it, run it and keep the last report. A command that fails
leaves validator and report as they were.
-/
namespace FormCheck

/-- The validator, copies of it set aside, and the last report. -/
structure Session where
  validator : Validator
  saved : List Validator
  report : Report

inductive Command where
  | validate (data : Data) (entries : List Entry)
  | validateJson (data rules : Json)
  | takeValidated
  | configure (settings : String)
  | configureFrom (path : String)
  | setLocale (locale : String)
  | setSanitize (on : Bool)
  | setOverrides (overrides : Overrides)
  | register (rule : Rule)
  | insertTable (locale : String) (table : LocaleTable)
  | loadFile (locale path : String)
  | fork
  | restore

namespace Session

def new : Session := ⟨.new, [], .empty⟩

abbrev Step := Logged (Session × Option Mistake)

def keepReport (s : Session) (run : Validator.Outcome) : Step := do
  match ← run with
  | .ok report => pure ({ s with report }, none)
  | .error e => pure (s, some e)

def keepValidator (s : Session) (made : Logged (Except Mistake Validator)) : Step := do
  match ← made with
  | .ok validator => pure ({ s with validator }, none)
  | .error e => pure (s, some e)

def withConfig (s : Session) (env : Surroundings) (config : Except Mistake Config) : Step :=
  match config with
  | .ok config => s.keepValidator (Validator.ofConfig env.files config)
  | .error e => pure (s, some e)

def change (s : Session) (validator : Logged Validator) : Step := do
  pure ({ s with validator := ← validator }, none)

def run (s : Session) (env : Surroundings) : Command → Step
  | .validate data entries => s.keepReport (s.validator.validate env data entries)
  | .validateJson data rules => s.keepReport (s.validator.validateJson env data rules)
  | .takeValidated => pure ({ s with report := .empty }, none)
  | .configure settings => s.withConfig env (Config.parse settings)
  | .configureFrom path => s.withConfig env (Config.load env.files path)
  | .setLocale locale => s.change (s.validator.setLocale locale)
  | .setSanitize on => s.change (pure { s.validator with sanitizes := on })
  | .setOverrides overrides => s.change (pure { s.validator with overrides })
  | .register rule => s.change (s.validator.register rule)
  | .insertTable locale table => s.change (s.validator.insertTable locale table)
  | .loadFile locale path =>
    match LocaleTable.load env.files locale path with
    | .ok table => s.change (s.validator.insertTable locale table)
    | .error e => pure (s, some e)
  | .fork => pure ({ s with saved := s.validator :: s.saved }, none)
  | .restore =>
    match s.saved with
    | validator :: saved => pure (⟨validator, saved, s.report⟩, none)
    | [] => pure (s, none)

end Session

end FormCheck
