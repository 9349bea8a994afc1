import FormCheck.Proofs.Messages.History

/-!
Which locales a translator can serve. Of a locale that is asked for the primary language will do;
the fallback counts as it is written, so a region tag there stands for no language.
-/
namespace FormCheck

def Messages.bundledKeys : List String := english.map Prod.fst

theorem Messages.keys_of_bundled {tag : String} {entries : List (String × String)}
    (h : bundled? tag = some entries) : Assoc.keys entries = bundledKeys := by
  unfold bundled? at h
  split at h <;> cases h <;> rfl

namespace Translator

def hasTable (t : Translator) : Bool := t.tables.contains t.locale

/-- A bundled table serves the full tag of a locale or its primary language. -/
def IsServed (locale : String) : Prop :=
  normalize locale ∈ Messages.bundledLocales ∨
    primary (normalize locale) ∈ Messages.bundledLocales

instance (locale : String) : Decidable (IsServed locale) :=
  inferInstanceAs (Decidable (_ ∨ _))

/-- The translator made for a locale and a fallback, after it was asked for other locales. -/
def switched (locale fallback : String) (later : List String) : Translator :=
  (withFallback locale fallback).value.after (later.map .setLocale)

end Translator

namespace Catalog

open Translator

private theorem chosen_select (c : Catalog) (first second : String) :
    (c.select first).chosen second = c.chosen second := by
  rw [chosen, chosen, select_tags, select_fallback]

private theorem select_select (c : Catalog) (first second : String) :
    (c.select first).select second = c.select second := by
  rw [select, chosen_select, select_fallback, select_tags, select_templates, select]

private theorem after_setLocales (c : Catalog) (locale : String) (later : List String) :
    (c.select locale).after (later.map .setLocale) =
      c.select ((locale :: later).getLast (List.cons_ne_nil _ _)) := by
  induction later generalizing locale with
  | nil => rfl
  | cons next later ih =>
    rw [List.map_cons, after_cons, change, select_select, ih, List.getLast_cons_cons]

private theorem chosen_mem_tags_iff (c : Catalog) (locale : String) (h : "" ∉ c.tags) :
    c.chosen locale ∈ c.tags ↔ normalize locale ∈ c.tags ∨
      primary (normalize locale) ∈ c.tags ∨ c.fallback ∈ c.tags := by
  have hne : ∀ tag ∈ c.tags, tag ≠ "" := fun tag ht he => h (he ▸ ht)
  rw [chosen]
  by_cases hfull : normalize locale ∈ c.tags
  · rw [if_pos ⟨hne _ hfull, hfull⟩]
    exact iff_of_true hfull (.inl hfull)
  · rw [if_neg (mt And.right hfull)]
    by_cases hlang : primary (normalize locale) ∈ c.tags
    · rw [if_pos ⟨hne _ hlang, hlang⟩]
      exact iff_of_true hlang (.inr (.inl hlang))
    · rw [if_neg (mt And.right hlang), or_iff_right hfull, or_iff_right hlang]

private theorem mem_tags_bundled {fallback tag : String} :
    tag ∈ (bundled fallback).tags ↔ tag ∈ Messages.bundledLocales :=
  List.mem_toFinset

private theorem empty_not_mem_tags_bundled (fallback : String) : "" ∉ (bundled fallback).tags := by
  rw [mem_tags_bundled]
  decide

theorem isSome_templates_bundled {fallback tag key : String}
    (ht : tag ∈ Messages.bundledLocales) (hk : key ∈ Messages.bundledKeys) :
    ((bundled fallback).templates tag key).isSome := by
  obtain ⟨entries, he⟩ := Option.isSome_iff_exists.1 (Messages.isSome_bundled?_iff.2 ht)
  have ht : (bundled fallback).templates tag key = (LocaleTable.ofList entries).get? key :=
    congrArg (Option.bind · fun entries => (LocaleTable.ofList entries).get? key) he
  rw [ht]
  apply OrderedMap.contains_iff.2
  rw [LocaleTable.ofList, OrderedMap.mem_keys_ofList, Messages.keys_of_bundled he]
  exact hk

end Catalog

namespace Translator

private theorem Represents.hasTable_iff {t : Translator} {c : Catalog} (h : t.Represents c) :
    t.hasTable = true ↔ c.locale ∈ c.tags := by
  rw [hasTable, OrderedMap.contains, h.atHand, h.locale, h.mem_tags]

private theorem represents_switched (locale fallback : String) (later : List String) :
    (switched locale fallback later).Represents ((Catalog.bundled fallback).select
      ((locale :: later).getLast (List.cons_ne_nil _ _))) := by
  rw [← Catalog.after_setLocales]
  exact (Represents.withFallback locale fallback).after _

private theorem hasTable_switched_iff (locale fallback : String) (later : List String) :
    (switched locale fallback later).hasTable = true ↔
      IsServed ((locale :: later).getLast (List.cons_ne_nil _ _)) ∨
        normalize fallback ∈ Messages.bundledLocales := by
  rw [(represents_switched locale fallback later).hasTable_iff, Catalog.select_tags,
    Catalog.select_locale,
    Catalog.chosen_mem_tags_iff _ _ (Catalog.empty_not_mem_tags_bundled fallback),
    Catalog.mem_tags_bundled, Catalog.mem_tags_bundled, Catalog.mem_tags_bundled, IsServed,
    or_assoc, Catalog.bundled]

private theorem template?_switched {locale fallback key : String} {later : List String}
    (h : (switched locale fallback later).hasTable = true) (hk : key ∈ Messages.bundledKeys) :
    ((switched locale fallback later).template? key).isSome := by
  have hr := represents_switched locale fallback later
  have hm := hr.hasTable_iff.1 h
  rw [Catalog.select_tags, Catalog.mem_tags_bundled] at hm
  rw [hr.template?_eq, Catalog.template?, Catalog.select_templates]
  exact Catalog.isSome_templates_bundled hm hk

private theorem template?_of_not_hasTable {t : Translator} (h : t.hasTable = false) (key : String) :
    t.template? key = none := by
  rw [hasTable, OrderedMap.contains, Option.isSome_eq_false_iff, Option.isNone_iff_eq_none] at h
  rw [template?, h, Option.bind_none]

private theorem isSome_template?_switched {locale fallback key : String} {later : List String}
    (hk : key ∈ Messages.bundledKeys) :
    ((switched locale fallback later).template? key).isSome =
      (switched locale fallback later).hasTable := by
  cases h : (switched locale fallback later).hasTable with
  | true => exact template?_switched h hk
  | false => rw [template?_of_not_hasTable h, Option.isSome_none]

/-- A fallback that has a table itself is all that keeps the active locale from having none. With
another the last locale that was asked for decides, and without a table there is no template. -/
theorem fallback_serves_iff (fallback : String) :
    ((∀ locale later, (switched locale fallback later).hasTable = true) ↔
      normalize fallback ∈ Messages.bundledLocales) ∧
    ∀ locale later,
      ((switched locale fallback later).hasTable = true ↔
        IsServed ((locale :: later).getLast (List.cons_ne_nil _ _)) ∨
          normalize fallback ∈ Messages.bundledLocales) ∧
      ∀ key ∈ Messages.bundledKeys,
        ((switched locale fallback later).template? key).isSome =
          (switched locale fallback later).hasTable := by
  refine ⟨⟨fun h => ?_, fun h locale later => ?_⟩, fun locale later => ⟨?_, fun key hk => ?_⟩⟩
  · exact ((hasTable_switched_iff "xx" fallback []).1 (h "xx" [])).resolve_left (by decide)
  · exact (hasTable_switched_iff locale fallback later).2 (.inr h)
  · exact hasTable_switched_iff locale fallback later
  · exact isSome_template?_switched hk

/-- The fallback is a region of a bundled language, and yet there is no template. -/
theorem region_fallback_serves_nothing :
    IsServed "fr-CA" ∧ (switched "xx" "fr-CA" []).hasTable = false ∧
      (switched "xx" "fr-CA" []).template? "required" = none := by
  decide

end Translator

end FormCheck
