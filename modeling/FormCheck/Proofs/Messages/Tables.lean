import FormCheck.Messages.Translator
import FormCheck.Proofs.OrderedMap

/-!
The tables behind a translator. A bundled table counts whether or not it has been taken up, so what
each change does to the tables is said without the cache: `takeUp` moves no table, `setLocale`
chooses by the tables there are, `insertTable` touches one of them.
-/
namespace FormCheck

theorem Messages.isSome_bundled?_iff {tag : String} :
    (bundled? tag).isSome ↔ tag ∈ bundledLocales := by
  unfold bundled?
  split <;> simp_all [bundledLocales]

namespace Translator

variable {t : Translator} {tag other : String}

/-- The table of a tag, at hand or still to be taken up. -/
def table? (t : Translator) (tag : String) : Option LocaleTable :=
  (t.tables.get? tag).or ((Messages.bundled? tag).map .ofList)

def takeUp (t : Translator) (tag : String) : Translator := (t.ensure tag).value.1

private theorem ensure_of_get? {table : LocaleTable} (h : t.tables.get? tag = some table) :
    t.ensure tag = pure (t, true) := by
  rw [ensure, OrderedMap.contains, h]
  rfl

private theorem ensure_of_get?_eq_none (h : t.tables.get? tag = none) :
    (t.ensure tag).value =
      match Messages.bundled? tag with
      | none => (t, false)
      | some entries => ({ t with tables := t.tables.insert tag (.ofList entries) }, true) := by
  rw [ensure, OrderedMap.contains, h]
  cases Messages.bundled? tag <;> rfl

private theorem value_ensure (t : Translator) (tag : String) :
    (t.ensure tag).value = (t.takeUp tag, (t.table? tag).isSome) := by
  have hfound : (t.ensure tag).value.2 = (t.table? tag).isSome := by
    rw [table?]
    cases hg : t.tables.get? tag with
    | some table =>
      rw [ensure_of_get? hg]
      rfl
    | none =>
      rw [ensure_of_get?_eq_none hg]
      cases Messages.bundled? tag <;> rfl
  rw [← hfound]
  rfl

private theorem takeUp_cases (t : Translator) (tag : String) :
    (t.takeUp tag = t ∧ t.tables.get? tag = t.table? tag) ∨
    ∃ table, t.table? tag = some table ∧
      t.takeUp tag = { t with tables := t.tables.insert tag table } := by
  cases hg : t.tables.get? tag with
  | some table =>
    left
    rw [takeUp, ensure_of_get? hg, table?, hg]
    exact ⟨rfl, rfl⟩
  | none =>
    rw [takeUp, ensure_of_get?_eq_none hg, table?, hg]
    cases Messages.bundled? tag with
    | none => exact .inl ⟨rfl, rfl⟩
    | some entries => exact .inr ⟨.ofList entries, rfl, rfl⟩

@[simp] theorem takeUp_locale (t : Translator) (tag : String) :
    (t.takeUp tag).locale = t.locale := by
  obtain ⟨h, -⟩ | ⟨_, -, h⟩ := t.takeUp_cases tag <;> rw [h]

@[simp] theorem takeUp_fallback (t : Translator) (tag : String) :
    (t.takeUp tag).fallback = t.fallback := by
  obtain ⟨h, -⟩ | ⟨_, -, h⟩ := t.takeUp_cases tag <;> rw [h]

theorem get?_takeUp (t : Translator) (tag other : String) :
    (t.takeUp tag).tables.get? other =
      if other = tag then t.table? tag else t.tables.get? other := by
  obtain ⟨h, hg⟩ | ⟨table, ht, h⟩ := t.takeUp_cases tag
  · rw [h]
    split
    · next heq => rw [heq, hg]
    · rfl
  · rw [h, ht]
    exact OrderedMap.get?_insert t.tables tag other table

@[simp] theorem table?_takeUp (t : Translator) (tag other : String) :
    (t.takeUp tag).table? other = t.table? other := by
  rw [table?, get?_takeUp]
  split
  · next h =>
    subst h
    rw [table?, Option.or_assoc, Option.or_self]
  · rfl

private theorem takeUp_of_table?_eq_none (h : t.table? tag = none) : t.takeUp tag = t := by
  obtain ⟨ht, -⟩ | ⟨table, ht, -⟩ := t.takeUp_cases tag
  · exact ht
  · rw [h] at ht
    cases ht

def activate (t : Translator) (tag : String) : Translator :=
  ⟨tag, t.fallback, (t.takeUp tag).tables⟩

@[simp] theorem activate_locale (t : Translator) (tag : String) :
    (t.activate tag).locale = tag := rfl

@[simp] theorem activate_fallback (t : Translator) (tag : String) :
    (t.activate tag).fallback = t.fallback := rfl

@[simp] theorem table?_activate (t : Translator) (tag other : String) :
    (t.activate tag).table? other = t.table? other :=
  table?_takeUp t tag other

theorem get?_activate_self (t : Translator) (tag : String) :
    (t.activate tag).tables.get? tag = t.table? tag :=
  (get?_takeUp t tag tag).trans (if_pos rfl)

/-- The first tag of a list that has a table, or the fallback. The empty tag is passed over. -/
def choose (t : Translator) : List String → String
  | [] => t.fallback
  | tag :: candidates =>
    if tag ≠ "" ∧ (t.table? tag).isSome then tag else t.choose candidates

private theorem value_useFallback (t : Translator) (asked : String) :
    (t.useFallback asked).value = t.activate t.fallback := by
  cases hf : t.table? t.fallback <;> by_cases hn : normalize asked = t.fallback <;>
    simp [useFallback, value_ensure, hf, hn, activate]

private theorem value_selectFirst (t : Translator) (asked : String) (candidates : List String) :
    (t.selectFirst asked candidates).value = t.activate (t.choose candidates) := by
  induction candidates with
  | nil => exact value_useFallback t asked
  | cons tag candidates ih =>
    rw [selectFirst, choose]
    by_cases he : tag = ""
    · simp [he, ih]
    · cases ht : t.table? tag with
      | none => simp [he, value_ensure, ht, takeUp_of_table?_eq_none ht, ih]
      | some table => simp [he, value_ensure, ht, activate]

theorem value_setLocale (t : Translator) (locale : String) :
    (t.setLocale locale).value =
      t.activate (t.choose [normalize locale, primary (normalize locale)]) :=
  value_selectFirst t locale _

theorem value_insertTable (t : Translator) (locale : String) (table : LocaleTable) :
    (t.insertTable locale table).value =
      ⟨t.locale, t.fallback, (t.takeUp (normalize locale)).tables.insert (normalize locale)
        (((t.table? (normalize locale)).getD .empty).merge table)⟩ := by
  simp [insertTable, value_ensure, get?_takeUp]

theorem get?_insertTable (t : Translator) (locale tag : String) (table : LocaleTable) :
    (t.insertTable locale table).value.tables.get? tag =
      if tag = normalize locale then some (((t.table? tag).getD .empty).merge table)
      else t.tables.get? tag := by
  rw [value_insertTable, OrderedMap.get?_insert]
  split
  · next h => rw [h]
  · next h => rw [get?_takeUp, if_neg h]

theorem table?_insertTable (t : Translator) (locale tag : String) (table : LocaleTable) :
    (t.insertTable locale table).value.table? tag =
      if tag = normalize locale then some (((t.table? tag).getD .empty).merge table)
      else t.table? tag := by
  rw [table?, get?_insertTable]
  split <;> rfl

end Translator

end FormCheck
