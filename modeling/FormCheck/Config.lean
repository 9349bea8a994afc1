import FormCheck.Messages.Json
import FormCheck.Rules.Json
import FormCheck.Validator

/-!
Settings of a validator, as JSON and as files, and the validator they make. Every setting may be
missing; paths in a file of settings are taken from its folder.
-/
namespace FormCheck

structure Config where
  locale : String := Messages.defaultLocale
  fallback : String := Messages.defaultLocale
  sanitize : Bool := true
  overrides : Overrides := .empty
  /-- The files of further locale tables, by locale. -/
  files : OrderedMap String := .empty

namespace Config

def fieldNames : List String :=
  ["locale", "fallback_locale", "sanitize", "messages", "locale_files"]

def ofParts? (locale fallback sanitize overrides files : Option Json) : Option Config := do
  let initial : Config := {}
  some {
    locale := ← locale.elim (some initial.locale) Json.string?
    fallback := ← fallback.elim (some initial.fallback) Json.string?
    sanitize := ← sanitize.elim (some initial.sanitize) Json.bool?
    overrides := ← overrides.elim (some initial.overrides) Overrides.decode?
    files := ← files.elim (some initial.files) fun j => (LocaleTable.ofJson? j).map (·.entries) }

def ofJson? : Json → Option Config
  | .object members => do
    ofParts? (← Json.onlyMember? "locale" members) (← Json.onlyMember? "fallback_locale" members)
      (← Json.onlyMember? "sanitize" members) (← Json.onlyMember? "messages" members)
      (← Json.onlyMember? "locale_files" members)
  | .array items =>
    if items.length ≤ 5 then ofParts? items[0]? items[1]? items[2]? items[3]? items[4]? else none
  | _ => none

/-- The settings of a JSON text. Settings that are not known are passed over. -/
def parse (text : String) : Except Mistake Config :=
  (((Json.Document.read? text).bind (·.toFields? fieldNames)).bind ofJson?).elim
    (.error (.badJson .undecodable)) .ok

def relativeTo (folder : String) (c : Config) : Config :=
  { c with files := c.files.map fun _ path => Files.joined folder path }

def load (files : Files.Tree) (path : String) : Except Mistake Config := do
  match files.readText path with
  | .error reason => .error (.unreadable path reason)
  | .ok text =>
    let c ← parse text
    match Files.parent? path with
    | some folder => .ok (c.relativeTo folder)
    | none => .ok c

end Config

namespace Translator

def loadFiles (t : Translator) (files : Files.Tree) :
    List (String × String) → Logged (Except Mistake Translator)
  | [] => pure (.ok t)
  | (locale, path) :: rest =>
    match t.loadFile files locale path with
    | .error e => pure (.error e)
    | .ok t => do (← t).loadFiles files rest

end Translator

namespace Validator

/-- The validator that settings make. Its locale is chosen again once all tables are there. -/
def ofConfig (files : Files.Tree) (c : Config) : Logged (Except Mistake Validator) := do
  let t ← Translator.withFallback c.locale c.fallback
  match ← t.loadFiles files c.files.entries with
  | .error e => pure (.error e)
  | .ok t =>
    let t ← t.setLocale c.locale
    Logged.log (.configured t.locale c.sanitize c.overrides.size)
    pure (.ok ⟨.builtin, t, c.overrides, c.sanitize⟩)

def validateJson (v : Validator) (env : Surroundings) (data rules : Json) : Outcome :=
  match Data.ofJson data, rulesOfJson rules with
  | .error e, _ => pure (.error e)
  | .ok _, .error e => pure (.error e)
  | .ok data, .ok rules => v.validate env data rules.entries

end Validator

namespace Report

def write (r : Report) : String :=
  let errors := r.errors.entries.map fun (field, messages) =>
    (field, Json.bracket "[" "]" (messages.map Json.quote))
  let validated := r.validated.entries.map fun (field, value) => (field, value.write)
  Json.braces [("errors", Json.braces errors), ("validated", Json.braces validated)]

end Report

end FormCheck
