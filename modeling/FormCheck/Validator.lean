import FormCheck.Messages.Overrides
import FormCheck.Messages.Placeholders
import FormCheck.Messages.Translator
import FormCheck.Report
import FormCheck.Rules.Builtin
import FormCheck.Rules.Names
import FormCheck.Rules.Spec

/-!
A validator and its runs. A run takes the entries of a rule list in order; every rule that fails
adds a message to its field, and a rule list that cannot be used ends the run with a mistake.
-/
namespace FormCheck

structure Validator where
  registry : Registry
  translator : Translator
  overrides : Overrides
  sanitizes : Bool

/-- A field and its rules. A field may stand in several entries. -/
abbrev Entry := String × FieldRules

namespace Validator

/-- The built-in rules, the default locale, no overrides, and values are sanitized. -/
def new : Validator :=
  ⟨.builtin, (Translator.new Messages.defaultLocale).value, .empty, true⟩

def prepare (v : Validator) (value : Value) : Value :=
  if v.sanitizes then value.sanitize else value

def prepared (v : Validator) (data : Data) (field : String) : Value :=
  v.prepare ((data.get? field).getD .null)

def siblingName? (rule field : String) (params : List String) : Option String :=
  if rule = "confirmed" then some (confirmationField field) else params.head?

/-- The prepared value of another field, unless it is missing or null. -/
def sibling? (v : Validator) (data : Data) (name : String) : Option Value :=
  match data.get? name with
  | none | some .null => none
  | some value => some (v.prepare value)

def siblingMatches (v : Validator) (data : Data) (rule field : String) (value : Value)
    (params : List String) : Bool :=
  let sibling := (siblingName? rule field params).bind (v.sibling? data)
  if rule = "different" then sibling.all fun s => !s.agrees value
  else sibling.any fun s => s.agrees value

/-- Whether a field fails a rule. Absent values fail few rules. -/
def fails (v : Validator) (env : Surroundings) (data : Data) (field : String) (value : Value)
    (rule : Rule) (name : String) (params : List String) : Bool :=
  if isCrossField name then !v.siblingMatches data name field value params
  else if value.isAbsent && !testsAbsent name then false
  else !rule.test env value params

/-- The template of a failure: the caller's, that of the active locale, or the rule's own. -/
def template (v : Validator) (field : String) (rule : Rule) : String :=
  ((v.overrides.resolve? field rule.name).or (v.translator.template? rule.name)).getD rule.template

def message (v : Validator) (field : String) (rule : Rule) (params : List String) : String :=
  Template.interpolate (v.template field rule) (placeholders field rule.name params)

/-- What came of a run so far: its events, and the report unless a mistake ended it. -/
abbrev Outcome := Logged (Except Mistake Report)

def runRules (v : Validator) (env : Surroundings) (data : Data) (field : String) (value : Value)
    (report : Report) : List (String × List String) → Outcome
  | [] => pure (.ok report)
  | (name, params) :: rules =>
    match v.registry.find name with
    | .error e => pure (.error e)
    | .ok rule =>
      if v.fails env data field value rule name params then do
        Logged.log (.ruleFailed field name value.kind)
        v.runRules env data field value (report.addError field (v.message field rule params)) rules
      else v.runRules env data field value report rules

def runEntry (v : Validator) (env : Surroundings) (data : Data) (report : Report)
    (entry : Entry) : Outcome :=
  match entry.2.toSpec with
  | .error e => pure (.error e)
  | .ok spec => do
    let value := v.prepared data entry.1
    let outcome ← v.runRules env data entry.1 value report spec.toList
    pure (outcome.map fun report => report.settle entry.1 value)

def runEntries (v : Validator) (env : Surroundings) (data : Data) (report : Report) :
    List Entry → Outcome
  | [] => pure (.ok report)
  | entry :: entries => do
    match ← v.runEntry env data report entry with
    | .error e => pure (.error e)
    | .ok report => v.runEntries env data report entries

def validate (v : Validator) (env : Surroundings) (data : Data) (entries : List Entry) :
    Outcome := do
  match ← v.runEntries env data .empty entries with
  | .error e => pure (.error e)
  | .ok report =>
    Logged.log (.validationFinished entries.length report.errorCount v.translator.locale)
    pure (.ok report)

def setLocale (v : Validator) (locale : String) : Logged Validator := do
  pure { v with translator := ← v.translator.setLocale locale }

def insertTable (v : Validator) (locale : String) (table : LocaleTable) : Logged Validator := do
  pure { v with translator := ← v.translator.insertTable locale table }

def register (v : Validator) (rule : Rule) : Logged Validator := do
  pure { v with registry := ← v.registry.register rule }

end Validator

end FormCheck
