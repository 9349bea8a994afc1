import FormCheck.Proofs.Messages.Catalog
import FormCheck.Proofs.Report

/-!
A translator stands for a catalog through any history. The tables at hand are some of those of the
catalog, the active one always among them, and no answer tells which of the others are.
-/
namespace FormCheck.Translator

/-- The catalog has the tables of the translator, those still to be taken up included. -/
structure Mirrors (t : Translator) (c : Catalog) : Prop where
  fallback : t.fallback = c.fallback
  mem_tags : ∀ tag, tag ∈ c.tags ↔ (t.table? tag).isSome
  templates : ∀ tag key, c.templates tag key = (t.table? tag).bind (·.get? key)

/-- The active locale is the same, and its table is at hand if it has one. -/
structure Represents (t : Translator) (c : Catalog) : Prop extends Mirrors t c where
  locale : t.locale = c.locale
  atHand : t.tables.get? t.locale = t.table? t.locale

variable {t : Translator} {c : Catalog}

namespace Mirrors

theorem bundled (fallback : String) :
    Mirrors ⟨normalize fallback, normalize fallback, .empty⟩ (.bundled fallback) where
  fallback := rfl
  -- Nothing is at hand yet, so every table is a bundled one.
  mem_tags tag := by
    rw [table?, OrderedMap.get?_empty, Option.none_or, Option.isSome_map,
      Messages.isSome_bundled?_iff]
    exact List.mem_toFinset
  templates tag key := by
    rw [table?, OrderedMap.get?_empty, Option.none_or, Option.bind_map]
    rfl

private theorem choose_eq (h : t.Mirrors c) (locale : String) :
    t.choose [normalize locale, primary (normalize locale)] = c.chosen locale := by
  simp only [choose, Catalog.chosen, h.mem_tags, h.fallback]

theorem congr {u : Translator} (h : t.Mirrors c) (hf : u.fallback = t.fallback)
    (ht : ∀ tag, u.table? tag = t.table? tag) : u.Mirrors c where
  fallback := hf.trans h.fallback
  mem_tags tag := by rw [ht, h.mem_tags]
  templates tag key := by rw [ht, h.templates]

theorem select (h : t.Mirrors c) (locale : String) : t.Mirrors (c.select locale) where
  fallback := by rw [Catalog.select_fallback, h.fallback]
  mem_tags tag := by rw [Catalog.select_tags, h.mem_tags]
  templates tag key := by rw [Catalog.select_templates, h.templates]

theorem setLocale (h : t.Mirrors c) (locale : String) :
    (t.setLocale locale).value.Represents (c.select locale) := by
  rw [value_setLocale, h.choose_eq]
  have hm : (t.activate (c.chosen locale)).Mirrors c :=
    h.congr (t.activate_fallback _) (t.table?_activate _)
  refine ⟨hm.select locale, ?_, ?_⟩
  · rw [activate_locale, Catalog.select_locale]
  · rw [activate_locale, table?_activate, get?_activate_self]

end Mirrors

namespace Represents

theorem withFallback (locale fallback : String) :
    (withFallback locale fallback).value.Represents ((Catalog.bundled fallback).select locale) :=
  (Mirrors.bundled fallback).setLocale locale

theorem takeUp (h : t.Represents c) (tag : String) : (t.takeUp tag).Represents c where
  toMirrors := h.congr (t.takeUp_fallback tag) (t.table?_takeUp tag)
  locale := by rw [takeUp_locale, h.locale]
  atHand := by
    rw [takeUp_locale, table?_takeUp, get?_takeUp]
    split
    · next heq => rw [heq]
    · exact h.atHand

theorem insertTable (h : t.Represents c) (locale : String) (table : LocaleTable) :
    (t.insertTable locale table).value.Represents (c.overwrite locale table) where
  fallback := by rw [value_insertTable]; exact h.fallback
  mem_tags tag := by
    rw [table?_insertTable]
    split
    · next heq => simp [Catalog.overwrite, heq]
    · next hne => simp [Catalog.overwrite, hne, h.mem_tags]
  templates tag key := by
    rw [table?_insertTable]
    split
    · next heq =>
      subst heq
      -- A tag without a table begins with an empty one on both sides.
      apply Catalog.foldl_put_self
      intro key
      rw [h.templates]
      cases t.table? (normalize locale) <;> rfl
    · next hne =>
      rw [← h.templates]
      exact congrFun (Catalog.foldl_put_of_ne hne) key
  locale := by rw [value_insertTable]; exact h.locale
  atHand := by
    have hl : (t.insertTable locale table).value.locale = t.locale := by rw [value_insertTable]
    rw [hl, get?_insertTable, table?_insertTable, h.atHand]

theorem change (h : t.Represents c) (change : Change) :
    (t.change change).Represents (c.change change) := by
  cases change with
  | withFallback locale fallback => exact .withFallback locale fallback
  | setLocale locale => exact h.setLocale locale
  | insertTable locale table => exact h.insertTable locale table
  | loadFile files locale path =>
    rw [Translator.change, Catalog.change, loadFile]
    cases LocaleTable.load files locale path with
    | ok table => exact h.insertTable locale table
    | error _ => exact h
  | takeUp tag => exact h.takeUp tag

theorem after (h : t.Represents c) (history : List Change) :
    (t.after history).Represents (c.after history) := by
  induction history generalizing t c with
  | nil => exact h
  | cons change history ih => exact ih (h.change change)

theorem template?_eq (h : t.Represents c) : t.template? = c.template? := by
  funext key
  rw [template?, h.atHand, ← h.templates, h.locale]
  rfl

private theorem mem_supported (h : t.Represents c) {tag : String} :
    tag ∈ t.supported ↔ tag ∈ c.tags := by
  rw [supported, (List.mergeSort_perm _ _).mem_iff, List.mem_eraseDups, List.mem_append,
    ← OrderedMap.contains_iff, OrderedMap.contains, h.mem_tags, table?, Option.isSome_or,
    Option.isSome_map, Bool.or_eq_true, Messages.isSome_bundled?_iff]

private theorem supported_eq (h : t.Represents c) : t.supported = c.tags.sort := by
  have hn : t.supported.Nodup := (List.mergeSort_perm _ _).nodup_iff.2 (nodup_eraseDups _)
  have ht : c.tags = t.supported.toFinset := by
    ext tag
    rw [List.mem_toFinset, h.mem_supported]
  rw [ht]
  exact ((List.toFinset_sort _ hn).2 (List.pairwise_mergeSort' _ _)).symm

theorem answers_eq (h : t.Represents c) : t.answers = c.answers := by
  rw [answers, Catalog.answers, ← h.template?_eq, h.locale, h.fallback, h.supported_eq]
  rfl

end Represents

/-- A translator answers as the catalog of all its tables does, and requests alone decide what: to
have bundled tables loaded in between changes no answer. -/
theorem answers_of_history (locale fallback : String) (history : List Change) :
    let t := (withFallback locale fallback).value
    (t.after history).answers =
      (((Catalog.bundled fallback).select locale).after history).answers ∧
    (t.after history).answers = (t.after (history.filter Change.isRequest)).answers := by
  intro t
  have ht : t.Represents ((Catalog.bundled fallback).select locale) := .withFallback locale fallback
  have hall := (ht.after history).answers_eq
  refine ⟨hall, ?_⟩
  rw [hall, (ht.after (history.filter Change.isRequest)).answers_eq, Catalog.after_filter]

end FormCheck.Translator
