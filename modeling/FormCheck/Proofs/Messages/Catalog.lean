import Mathlib.Data.Finset.Sort
import Mathlib.Data.String.Basic
import FormCheck.Proofs.Messages.Tables

/-!
All locale tables at once. A catalog answers what a translator answers, but it has the bundled
tables from the start and takes entries over one by one, so nothing in it is ever loaded.
-/
namespace FormCheck

/-- The tags that have a table and the templates under them, the active locale and the fallback. -/
structure Catalog where
  locale : String
  fallback : String
  tags : Finset String
  templates : String → String → Option String

namespace Translator

/-- What can be done to a translator. `takeUp` has the bundled table of a tag loaded early. -/
inductive Change where
  | withFallback (locale fallback : String)
  | setLocale (locale : String)
  | insertTable (locale : String) (table : LocaleTable)
  | loadFile (files : Files.Tree) (locale path : String)
  | takeUp (tag : String)

/-- Asked for by the caller, as loading a bundled table is not. -/
def Change.isRequest : Change → Bool
  | takeUp _ => false
  | _ => true

structure Answers where
  locale : String
  fallback : String
  template? : String → Option String
  translate : String → List (String × String) → String
  supported : List String

def change (t : Translator) : Change → Translator
  | .withFallback locale fallback => (withFallback locale fallback).value
  | .setLocale locale => (t.setLocale locale).value
  | .insertTable locale table => (t.insertTable locale table).value
  | .loadFile files locale path =>
    match t.loadFile files locale path with
    | .ok loaded => loaded.value
    | .error _ => t
  | .takeUp tag => t.takeUp tag

def after (t : Translator) (history : List Change) : Translator := history.foldl change t

def answers (t : Translator) : Answers :=
  ⟨t.locale, t.fallback, t.template?, t.translate, t.supported⟩

end Translator

namespace Catalog

def bundled (fallback : String) : Catalog where
  locale := Translator.normalize fallback
  fallback := Translator.normalize fallback
  tags := Messages.bundledLocales.toFinset
  templates tag key :=
    (Messages.bundled? tag).bind fun entries => (LocaleTable.ofList entries).get? key

/-- The full tag of a locale or its primary language, if it has a table, or else the fallback. -/
def chosen (c : Catalog) (locale : String) : String :=
  let tag := Translator.normalize locale
  let language := Translator.primary tag
  if tag ≠ "" ∧ tag ∈ c.tags then tag
  else if language ≠ "" ∧ language ∈ c.tags then language
  else c.fallback

def select (c : Catalog) (locale : String) : Catalog := { c with locale := c.chosen locale }

def put (tag : String) (templates : String → String → Option String) (entry : String × String) :
    String → String → Option String :=
  fun t key => if t = tag ∧ key = entry.1 then some entry.2 else templates t key

/-- Takes over the entries of a table in turn under a tag, which has a table from then on. -/
def overwrite (c : Catalog) (locale : String) (table : LocaleTable) : Catalog :=
  let tag := Translator.normalize locale
  { c with
    tags := insert tag c.tags
    templates := table.entries.entries.foldl (put tag) c.templates }

def change (c : Catalog) : Translator.Change → Catalog
  | .withFallback locale fallback => (bundled fallback).select locale
  | .setLocale locale => c.select locale
  | .insertTable locale table => c.overwrite locale table
  | .loadFile files locale path =>
    match LocaleTable.load files locale path with
    | .ok table => c.overwrite locale table
    | .error _ => c
  | .takeUp _ => c

def after (c : Catalog) (history : List Translator.Change) : Catalog := history.foldl change c

def template? (c : Catalog) (key : String) : Option String := c.templates c.locale key

/-- A key without a template is its own. -/
def answers (c : Catalog) : Translator.Answers where
  locale := c.locale
  fallback := c.fallback
  template? := c.template?
  translate key pairs := Template.interpolate ((c.template? key).getD key) pairs
  supported := c.tags.sort

@[simp] theorem select_locale (c : Catalog) (locale : String) :
    (c.select locale).locale = c.chosen locale := by
  rw [select]

@[simp] theorem select_fallback (c : Catalog) (locale : String) :
    (c.select locale).fallback = c.fallback := by
  rw [select]

@[simp] theorem select_tags (c : Catalog) (locale : String) :
    (c.select locale).tags = c.tags := by
  rw [select]

@[simp] theorem select_templates (c : Catalog) (locale : String) :
    (c.select locale).templates = c.templates := by
  rw [select]

theorem after_cons (c : Catalog) (change : Translator.Change) (history : List Translator.Change) :
    c.after (change :: history) = (c.change change).after history := rfl

theorem after_filter (c : Catalog) (history : List Translator.Change) :
    c.after (history.filter Translator.Change.isRequest) = c.after history := by
  induction history generalizing c with
  | nil => rfl
  | cons change history ih =>
    rw [after_cons]
    cases change with
    | takeUp tag =>
      rw [List.filter_cons_of_neg Bool.false_ne_true]
      exact ih c
    | _ =>
      rw [List.filter_cons_of_pos rfl, after_cons]
      exact ih _

section Overwriting

variable {tag key : String} {entries : List (String × String)}
  {templates : String → String → Option String}

theorem foldl_put_of_ne {other : String} (h : other ≠ tag) :
    entries.foldl (put tag) templates other = templates other := by
  induction entries generalizing templates with
  | nil => rfl
  | cons entry entries ih =>
    rw [List.foldl_cons, ih]
    funext key
    simp [put, h]

theorem foldl_put_self {m : OrderedMap String} (h : ∀ key, templates tag key = m.get? key) :
    entries.foldl (put tag) templates tag key = (m.insertAll entries).get? key := by
  induction entries generalizing templates m with
  | nil => exact h key
  | cons entry entries ih =>
    apply ih
    intro other
    simp [put, h, OrderedMap.get?_insert]

theorem foldl_put_of_agrees {other : String}
    (h : other = tag → ∀ e ∈ entries, e.1 = key → templates other key = some e.2) :
    entries.foldl (put tag) templates other key = templates other key := by
  induction entries generalizing templates with
  | nil => rfl
  | cons entry entries ih =>
    have hput : put tag templates entry other key = templates other key := by
      unfold put
      split
      · next hk => exact (h hk.1 entry List.mem_cons_self hk.2.symm).symm
      · rfl
    rw [List.foldl_cons, ih, hput]
    intro ho e he hk
    rw [hput]
    exact h ho e (List.mem_cons_of_mem _ he) hk

end Overwriting

end Catalog

end FormCheck
