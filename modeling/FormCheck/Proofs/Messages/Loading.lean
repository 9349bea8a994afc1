import FormCheck.Config
import FormCheck.Proofs.Messages.History
import FormCheck.Proofs.Run.Interchange

/-!
Tables that settings name. The locale is asked for before and after they are loaded, and only the
second answer stays: it goes by all tables. Tables of different tags touch nothing of each other, so
the order in which they are loaded is seen by no question and by no run.
-/
namespace FormCheck

namespace Catalog

variable {c : Catalog} {tag : String} {files : Files.Tree} {entries : List (String × String)}

@[ext] theorem ext {c d : Catalog} (hl : c.locale = d.locale) (hf : c.fallback = d.fallback)
    (ht : c.tags = d.tags) (hs : c.templates = d.templates) : c = d := by
  cases c
  cases d
  cases hl
  cases hf
  cases ht
  cases hs
  rfl

private theorem foldl_put_congr {templates templates' : String → String → Option String}
    (h : templates tag = templates' tag) :
    entries.foldl (put tag) templates tag = entries.foldl (put tag) templates' tag := by
  induction entries generalizing templates templates' with
  | nil => exact h
  | cons entry entries ih =>
    apply ih
    funext key
    simp only [put, h]

@[simp] theorem overwrite_locale (c : Catalog) (locale : String) (table : LocaleTable) :
    (c.overwrite locale table).locale = c.locale := by
  rw [overwrite]

@[simp] theorem overwrite_fallback (c : Catalog) (locale : String) (table : LocaleTable) :
    (c.overwrite locale table).fallback = c.fallback := by
  rw [overwrite]

@[simp] theorem overwrite_tags (c : Catalog) (locale : String) (table : LocaleTable) :
    (c.overwrite locale table).tags = insert (Translator.normalize locale) c.tags := by
  rw [overwrite]

private theorem templates_overwrite (c : Catalog) (locale : String) (table : LocaleTable)
    (tag : String) :
    (c.overwrite locale table).templates tag =
      if tag = Translator.normalize locale then
        table.entries.entries.foldl (put tag) c.templates tag
      else c.templates tag := by
  by_cases h : tag = Translator.normalize locale
  · subst h
    rw [if_pos rfl, overwrite]
  · rw [if_neg h]
    exact foldl_put_of_ne h

private theorem overwrite_comm {locale other : String}
    (h : Translator.normalize locale ≠ Translator.normalize other) (table more : LocaleTable) :
    (c.overwrite locale table).overwrite other more =
      (c.overwrite other more).overwrite locale table := by
  apply ext
  · simp only [overwrite_locale]
  · simp only [overwrite_fallback]
  · simp only [overwrite_tags, Finset.insert_comm]
  funext tag
  rw [templates_overwrite, templates_overwrite, templates_overwrite, templates_overwrite]
  by_cases hl : tag = Translator.normalize locale
  · subst hl
    rw [if_neg h, if_pos rfl, if_pos rfl]
    exact foldl_put_congr (by rw [templates_overwrite, if_neg h])
  · by_cases ho : tag = Translator.normalize other
    · subst ho
      rw [if_pos rfl, if_neg hl, if_pos rfl]
      exact foldl_put_congr (by rw [templates_overwrite, if_neg hl])
    · rw [if_neg ho, if_neg hl, if_neg hl, if_neg ho]

def load (c : Catalog) (files : Files.Tree) (entries : List (String × String)) : Catalog :=
  c.after (entries.map fun e => .loadFile files e.1 e.2)

private theorem load_cons (c : Catalog) (files : Files.Tree) (entry : String × String)
    (entries : List (String × String)) :
    c.load files (entry :: entries) =
      (c.change (.loadFile files entry.1 entry.2)).load files entries := rfl

private theorem change_loadFile_of_ok {locale path : String} {table : LocaleTable}
    (h : LocaleTable.load files locale path = .ok table) (c : Catalog) :
    c.change (.loadFile files locale path) = c.overwrite locale table := by
  rw [change, h]

private theorem change_loadFile_of_error {locale path : String} {m : Mistake}
    (h : LocaleTable.load files locale path = .error m) (c : Catalog) :
    c.change (.loadFile files locale path) = c := by
  rw [change, h]

private theorem change_loadFile_comm {locale other path path' : String}
    (h : Translator.normalize locale ≠ Translator.normalize other) :
    (c.change (.loadFile files locale path)).change (.loadFile files other path') =
      (c.change (.loadFile files other path')).change (.loadFile files locale path) := by
  cases hl : LocaleTable.load files locale path with
  | error m => rw [change_loadFile_of_error hl, change_loadFile_of_error hl]
  | ok table =>
    rw [change_loadFile_of_ok hl, change_loadFile_of_ok hl]
    cases ho : LocaleTable.load files other path' with
    | error m => rw [change_loadFile_of_error ho, change_loadFile_of_error ho]
    | ok more => rw [change_loadFile_of_ok ho, change_loadFile_of_ok ho, overwrite_comm h]

private theorem load_perm {entries' : List (String × String)} (hp : entries.Perm entries')
    (hn : (entries.map fun e => Translator.normalize e.1).Nodup) (c : Catalog) :
    c.load files entries = c.load files entries' := by
  rw [load, load, after, after, List.foldl_map, List.foldl_map]
  apply hp.foldl_eq'
  intro e he f hf c
  by_cases hef : Translator.normalize e.1 = Translator.normalize f.1
  · rw [List.inj_on_of_nodup_map hn he hf hef]
  · exact change_loadFile_comm hef

private theorem load_relocated (c : Catalog) (active : String) :
    ({ c with locale := active } : Catalog).load files entries =
      { c.load files entries with locale := active } := by
  induction entries generalizing c with
  | nil => rfl
  | cons e entries ih =>
    rw [load_cons, load_cons, ← ih]
    cases he : LocaleTable.load files e.1 e.2 with
    | error m => rw [change_loadFile_of_error he, change_loadFile_of_error he]
    | ok table =>
      rw [change_loadFile_of_ok he, change_loadFile_of_ok he]
      simp only [overwrite]

/-- A locale chosen before the tables are loaded leaves no trace once one is chosen again. -/
theorem select_load_select (c : Catalog) (files : Files.Tree) (entries : List (String × String))
    (first second : String) :
    ((c.select first).load files entries).select second = (c.load files entries).select second := by
  have hl : (c.select first).load files entries =
      { c.load files entries with locale := c.chosen first } := load_relocated c _
  rw [hl, select, select]
  simp only [chosen]

private theorem load_fallback (c : Catalog) : (c.load files entries).fallback = c.fallback := by
  induction entries generalizing c with
  | nil => rfl
  | cons e entries ih =>
    rw [load_cons, ih]
    cases he : LocaleTable.load files e.1 e.2 with
    | error m => rw [change_loadFile_of_error he]
    | ok table => rw [change_loadFile_of_ok he, overwrite_fallback]

private theorem mem_tags_load
    (h : ∀ e ∈ entries, ∃ table, LocaleTable.load files e.1 e.2 = .ok table) :
    tag ∈ (c.load files entries).tags ↔
      tag ∈ c.tags ∨ tag ∈ entries.map fun e => Translator.normalize e.1 := by
  induction entries generalizing c with
  | nil => simp [load, after]
  | cons e entries ih =>
    obtain ⟨⟨table, he⟩, hentries⟩ := List.forall_mem_cons.1 h
    rw [load_cons, ih hentries, change_loadFile_of_ok he, overwrite_tags, Finset.mem_insert,
      List.map_cons, List.mem_cons, or_comm (a := tag = _), or_assoc]

end Catalog

namespace Config

/-- Every file of the settings can be read as a table. -/
def Loads (files : Files.Tree) (c : Config) : Prop :=
  ∀ e ∈ c.files.entries, ∃ table, LocaleTable.load files e.1 e.2 = .ok table

private theorem loads_iff {files : Files.Tree} {c : Config} :
    c.Loads files ↔ ∀ e ∈ c.files.entries, (LocaleTable.load files e.1 e.2).isOk = true := by
  have hok : ∀ table : Except Mistake LocaleTable, (∃ t, table = .ok t) ↔ table.isOk = true := by
    intro table
    cases table <;> simp [Except.isOk, Except.toBool]
  simp only [Loads, hok]

instance (files : Files.Tree) (c : Config) : Decidable (c.Loads files) :=
  decidable_of_iff _ loads_iff.symm

def catalog (files : Files.Tree) (c : Config) : Catalog :=
  (Catalog.bundled c.fallback).load files c.files.entries

variable {files : Files.Tree} {c : Config}

private theorem catalog_fallback : (c.catalog files).fallback = Translator.normalize c.fallback :=
  Catalog.load_fallback _

private theorem mem_tags_catalog (h : c.Loads files) {tag : String} :
    tag ∈ (c.catalog files).tags ↔
      tag ∈ Messages.bundledLocales ∨ tag ∈ c.files.keys.map Translator.normalize := by
  rw [catalog, Catalog.mem_tags_load h, Catalog.bundled, List.mem_toFinset, OrderedMap.keys,
    Assoc.keys, List.map_map]
  rfl

end Config

namespace Translator

private theorem value_loadFiles {t : Translator} {files : Files.Tree}
    {entries : List (String × String)}
    (h : ∀ e ∈ entries, ∃ table, LocaleTable.load files e.1 e.2 = .ok table) :
    (t.loadFiles files entries).value =
      .ok (t.after (entries.map fun e => .loadFile files e.1 e.2)) := by
  induction entries generalizing t with
  | nil => rfl
  | cons e entries ih =>
    obtain ⟨⟨table, he⟩, hentries⟩ := List.forall_mem_cons.1 h
    have hl : t.loadFile files e.1 e.2 = .ok (t.insertTable e.1 table) := by
      rw [loadFile, he]
      rfl
    rw [loadFiles, hl]
    simp only [Logged.value_bind, ih hentries, List.map_cons, after, List.foldl_cons, change, hl]

end Translator

namespace Validator

variable {files : Files.Tree} {c : Config}

/-- A validator as settings ask for it: its translator stands for all tables, with the locale chosen
by them. -/
structure IsConfigured (v : Validator) (files : Files.Tree) (c : Config) : Prop where
  registry : v.registry = .builtin
  overrides : v.overrides = c.overrides
  sanitizes : v.sanitizes = c.sanitize
  translator : v.translator.Represents ((c.catalog files).select c.locale)

private theorem ofConfig_of_loads (h : c.Loads files) :
    ∃ v, (ofConfig files c).value = .ok v ∧ v.IsConfigured files c := by
  have hr := ((Translator.Represents.withFallback c.locale c.fallback).after
    (c.files.entries.map fun e => .loadFile files e.1 e.2)).setLocale c.locale
  have hs := Catalog.select_load_select (.bundled c.fallback) files c.files.entries
    c.locale c.locale
  rw [Catalog.load, ← Config.catalog] at hs
  rw [hs] at hr
  simp only [ofConfig, Logged.value_bind, Translator.value_loadFiles h, Logged.value_pure]
  generalize (Translator.setLocale _ c.locale).value = t at hr ⊢
  exact ⟨⟨.builtin, t, c.overrides, c.sanitize⟩, rfl, rfl, rfl, rfl, hr⟩

namespace IsConfigured

variable {v w : Validator}

theorem answers_eq (hv : v.IsConfigured files c) (hw : w.IsConfigured files c)
    (history : List Translator.Change) :
    (v.translator.after history).answers = (w.translator.after history).answers := by
  rw [(hv.translator.after history).answers_eq, (hw.translator.after history).answers_eq]

private theorem interchangeable (hv : v.IsConfigured files c) (hw : w.IsConfigured files c)
    (history : List Translator.Change) (entries : List Entry) :
    Interchangeable { v with translator := v.translator.after history }
      { w with translator := w.translator.after history } entries := by
  have ht := hv.translator.after history
  have hu := hw.translator.after history
  refine ⟨hv.sanitizes.trans hw.sanitizes.symm, ?_, ht.locale.trans hu.locale.symm, ?_⟩
  · funext field rule params
    simp only [message, template, hv.overrides, hw.overrides, ht.template?_eq, hu.template?_eq]
  · intro _ _ _ _
    rw [hv.registry, hw.registry]

end IsConfigured

/-- Settings whose files can all be loaded make a validator. Its locale is the full tag that is
asked for, or its primary language, if it is not empty and one of all these tables is there for it,
or else the fallback; and it answers as if the tables had been there from the start. The same files
in another order make a validator that answers and runs alike, now and after any further changes of
both, as long as no two of them are for one tag. -/
theorem loading_order_is_invisible (h : c.Loads files) :
    ∃ v, (ofConfig files c).value = .ok v ∧
      v.translator.locale = (c.catalog files).chosen c.locale ∧
      v.translator.answers = ((c.catalog files).select c.locale).answers ∧
      (∀ tag, tag ∈ (c.catalog files).tags ↔
        tag ∈ Messages.bundledLocales ∨ tag ∈ c.files.keys.map Translator.normalize) ∧
      (c.catalog files).fallback = Translator.normalize c.fallback ∧
      ∀ reordered : OrderedMap String, reordered.entries.Perm c.files.entries →
        (c.files.keys.map Translator.normalize).Nodup →
        ∃ w, (ofConfig files { c with files := reordered }).value = .ok w ∧ ∀ history,
          (v.translator.after history).answers = (w.translator.after history).answers ∧
          ∀ env data entries,
            validate { v with translator := v.translator.after history } env data entries =
              validate { w with translator := w.translator.after history } env data entries := by
  obtain ⟨v, hv, hc⟩ := ofConfig_of_loads h
  have hlocale := hc.translator.locale
  rw [Catalog.select_locale] at hlocale
  refine ⟨v, hv, hlocale, hc.translator.answers_eq, fun tag => Config.mem_tags_catalog h,
    Config.catalog_fallback, fun reordered hp hn => ?_⟩
  have hload : Config.Loads files { c with files := reordered } := fun e he =>
    h e (hp.mem_iff.1 he)
  have hsame : Config.catalog files { c with files := reordered } = c.catalog files := by
    rw [OrderedMap.keys, Assoc.keys, List.map_map] at hn
    exact (Catalog.load_perm hp.symm hn _).symm
  obtain ⟨w, hw, hd⟩ := ofConfig_of_loads hload
  have hd : w.IsConfigured files c :=
    ⟨hd.registry, hd.overrides, hd.sanitizes, hsame ▸ hd.translator⟩
  exact ⟨w, hw, fun history => ⟨hc.answers_eq hd history, fun env data entries =>
    (hc.interchangeable hd history entries).validate_eq env data⟩⟩

theorem loading_order_of_three_files :
    let files : Files.Tree :=
      .ofList [("pt.json", "\x7b\"required\":\"Falta :field.\"\x7d".toUTF8),
        ("de.json", "\x7b\"required\":\"Es fehlt :field.\"\x7d".toUTF8)]
    let c : Config :=
      { locale := "pt-BR"
        fallback := "de"
        files := .ofList [("pt_BR", "pt.json"), ("de", "de.json"), ("fr", "de.json")] }
    let reordered : OrderedMap String :=
      .ofList [("fr", "de.json"), ("pt_BR", "pt.json"), ("de", "de.json")]
    c.Loads files ∧ reordered.entries.Perm c.files.entries ∧
      (c.files.keys.map Translator.normalize).Nodup ∧
      ∃ v w, (ofConfig files c).value = .ok v ∧
        (ofConfig files { c with files := reordered }).value = .ok w ∧
        v.translator.locale = "pt-br" ∧ v.translator.answers = w.translator.answers ∧
        ∀ env data entries, v.validate env data entries = w.validate env data entries := by
  intro files c reordered
  have hl : c.Loads files := by decide +kernel
  have hp : reordered.entries.Perm c.files.entries := by decide +kernel
  have hn : (c.files.keys.map Translator.normalize).Nodup := by decide +kernel
  have hc : (c.catalog files).chosen c.locale = "pt-br" := by decide +kernel
  obtain ⟨v, hv, hlocale, -, -, -, horder⟩ := loading_order_is_invisible hl
  obtain ⟨w, hw, hsame⟩ := horder reordered hp hn
  exact ⟨hl, hp, hn, v, w, hv, hw, hlocale.trans hc, (hsame []).1, (hsame []).2⟩

/-- A table for the empty tag is there, and it is asked for, and yet the fallback is active. -/
theorem empty_tag_gives_way :
    let files : Files.Tree := .ofList [("x.json", "\x7b\"required\":\"None.\"\x7d".toUTF8)]
    let c : Config := { locale := "", files := .ofList [("", "x.json")] }
    c.Loads files ∧ Translator.normalize c.locale ∈ (c.catalog files).tags ∧
      ∃ v, (ofConfig files c).value = .ok v ∧ v.translator.locale = "en" ∧
        Translator.normalize c.locale ≠ "en" := by
  intro files c
  have hl : c.Loads files := by decide +kernel
  have hc : (c.catalog files).chosen c.locale = "en" := by decide +kernel
  obtain ⟨v, hv, hd⟩ := ofConfig_of_loads hl
  have hlocale := hd.translator.locale
  rw [Catalog.select_locale, hc] at hlocale
  exact ⟨hl, by decide +kernel, v, hv, hlocale, by decide⟩

end Validator

end FormCheck
