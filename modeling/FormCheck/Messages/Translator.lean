import FormCheck.Event
import FormCheck.Messages.Bundled
import FormCheck.Messages.LocaleTable
import FormCheck.Messages.Template
import FormCheck.Text.Case

/-!
Message templates in the active language. Bundled tables are taken up when they are first needed;
a language without a table gives way to its primary language, then to the fallback.
-/
namespace FormCheck

/-- The tables at hand, the active locale and the one that stands in for unknown locales. -/
structure Translator where
  locale : String
  fallback : String
  tables : OrderedMap LocaleTable
  deriving DecidableEq

namespace Translator

/-- Locales are compared without blanks at their ends, in small letters, with dashes. -/
def normalize (locale : String) : String :=
  String.ofList ((Text.strip Text.isBlank locale.toList).map fun c =>
    if c = '_' then '-' else c.toLower)

def primary (tag : String) : String :=
  String.ofList (tag.toList.takeWhile (· != '-'))

/-- Takes up the bundled table of a locale unless one is there; whether there is one now. -/
def ensure (t : Translator) (locale : String) : Logged (Translator × Bool) :=
  if t.tables.contains locale then pure (t, true)
  else match Messages.bundled? locale with
    | none => pure (t, false)
    | some entries =>
      let table := LocaleTable.ofList entries
      ⟨({ t with tables := t.tables.insert locale table }, true), [.tableLoaded locale table.size]⟩

/-- Selects the fallback, whether or not it has a table. -/
def useFallback (t : Translator) (asked : String) : Logged Translator := do
  let (t, found) ← t.ensure t.fallback
  if !found then Logged.log (.fallbackWithoutTable t.fallback)
  if normalize asked ≠ t.fallback then Logged.log (.fallbackUsed asked t.fallback)
  pure { t with locale := t.fallback }

def selectFirst (t : Translator) (asked : String) : List String → Logged Translator
  | [] => t.useFallback asked
  | candidate :: candidates =>
    if candidate.isEmpty then t.selectFirst asked candidates
    else do
      let (t, found) ← t.ensure candidate
      if found then pure { t with locale := candidate } else t.selectFirst asked candidates

def setLocale (t : Translator) (locale : String) : Logged Translator :=
  let tag := normalize locale
  t.selectFirst locale [tag, primary tag]

def withFallback (locale fallback : String) : Logged Translator :=
  setLocale ⟨normalize fallback, normalize fallback, .empty⟩ locale

def new (locale : String) : Logged Translator := withFallback locale Messages.defaultLocale

def template? (t : Translator) (key : String) : Option String :=
  (t.tables.get? t.locale).bind (·.get? key)

/-- The message of a key; a key without a template is its own. -/
def translate (t : Translator) (key : String) (pairs : List (String × String)) : String :=
  Template.interpolate ((t.template? key).getD key) pairs

def insertTable (t : Translator) (locale : String) (table : LocaleTable) : Logged Translator := do
  let tag := normalize locale
  let (t, _) ← t.ensure tag
  pure { t with tables := t.tables.insert tag (((t.tables.get? tag).getD .empty).merge table) }

def loadFile (t : Translator) (files : Files.Tree) (locale path : String) :
    Except Mistake (Logged Translator) :=
  (LocaleTable.load files locale path).map (t.insertTable locale)

def supported (t : Translator) : List String :=
  ((t.tables.keys ++ Messages.bundledLocales).eraseDups).mergeSort fun a b => decide (a ≤ b)

end Translator

end FormCheck
