import FormCheck.Proofs.Messages.Fallback
import FormCheck.Proofs.Messages.Substitution
import FormCheck.Validator

/-!
The bundled messages and what is put into them. Each language has a template for every built-in
rule, and the tokens of the template are among the keys that the rule is given replacements for, so
no message of a bundled language shows a token that is still open.
-/
namespace FormCheck

def parametersTold : String → Nat
  | "between" => 2
  | "min" | "max" | "size" | "same" | "different" | "before" | "after" => 1
  | _ => 0

def placeholderKeys (rule : String) (count : Nat) : List String :=
  (placeholders "" rule (List.replicate count "")).map Prod.fst

private theorem parametersTold_le (rule : String) : parametersTold rule ≤ 2 := by
  unfold parametersTold
  split <;> decide

private theorem map_fst_placeholders (field rule : String) (params : List String) :
    (placeholders field rule params).map Prod.fst =
      placeholderKeys rule (min params.length 2) := by
  unfold placeholderKeys placeholders rulePlaceholders
  match params with
  | [] => split <;> rfl
  | [_] => split <;> rfl
  | _ :: _ :: rest =>
    have hlength : min (rest.length + 1 + 1) 2 = 2 := by omega
    rw [List.length_cons, List.length_cons, hlength]
    split <;> rfl

private theorem placeholderKeys_subset_succ (rule : String) :
    placeholderKeys rule 0 ⊆ placeholderKeys rule 1 ∧
      placeholderKeys rule 1 ⊆ placeholderKeys rule 2 := by
  unfold placeholderKeys placeholders rulePlaceholders
  constructor <;> split <;> decide

private theorem placeholderKeys_subset {rule : String} {few many : Nat} (h : few ≤ many)
    (hmany : many ≤ 2) : placeholderKeys rule few ⊆ placeholderKeys rule many := by
  obtain ⟨hone, htwo⟩ := placeholderKeys_subset_succ rule
  obtain rfl | ⟨rfl, rfl⟩ | ⟨rfl, rfl⟩ | ⟨rfl, rfl⟩ :
      few = many ∨ few = 0 ∧ many = 1 ∨ few = 1 ∧ many = 2 ∨ few = 0 ∧ many = 2 := by omega
  · exact List.Subset.refl _
  · exact hone
  · exact htwo
  · exact List.Subset.trans hone htwo

private theorem placeholderKeys_subset_placeholders {field rule : String} {params : List String}
    (h : parametersTold rule ≤ params.length) :
    placeholderKeys rule (parametersTold rule) ⊆ (placeholders field rule params).map Prod.fst := by
  rw [map_fst_placeholders]
  exact placeholderKeys_subset (Nat.le_min.2 ⟨h, parametersTold_le rule⟩) (Nat.min_le_right _ _)

def Messages.bundledTemplate? (tag key : String) : Option String :=
  (bundled? tag).bind fun entries => (LocaleTable.ofList entries).get? key

def builtinNames : List String := builtinRules.map Rule.name

namespace Template

def tokenNames (cutting : List Piece) : List String :=
  cutting.filterMap fun
    | .token (c :: name) => some (String.ofList (c :: name))
    | _ => none

private theorem mem_tokenNames {cutting : List Piece} {name : List Char} (hn : name ≠ [])
    (hm : .token name ∈ cutting) : String.ofList name ∈ tokenNames cutting := by
  cases name with
  | nil => contradiction
  | cons c name => exact List.mem_filterMap.2 ⟨_, hm, rfl⟩

/-- What a piece becomes where every token is replaced. -/
inductive Piece.Filled (pairs : List (String × String)) : Piece → List Char → Prop where
  | copied (c : Char) : Filled pairs (.char c) [c]
  | colon : Filled pairs (.token []) [':']
  | replaced {name : List Char} {value : String} {before after : List (String × String)} :
      name ≠ [] → pairs = before ++ (String.ofList name, value) :: after →
      (∀ p ∈ before, p.1 ≠ String.ofList name) → Filled pairs (.token name) value.toList

theorem Piece.Becomes.filled {pairs : List (String × String)} {piece : Piece} {text : List Char}
    (h : piece.Becomes pairs text)
    (hk : ∀ name ≠ [], piece = .token name → String.ofList name ∈ pairs.map Prod.fst) :
    piece.Filled pairs text := by
  cases h with
  | copied c => exact .copied c
  | replaced hn hs hb => exact .replaced hn hs hb
  | @kept name hopen =>
    by_cases hn : name = []
    · subst hn
      exact .colon
    · obtain ⟨p, hp, he⟩ := List.mem_map.1 (hk name hn rfl)
      exact absurd he (hopen hn p hp)

end Template

/-- The keys that a rule needs for the tokens of a template are all there. -/
def Covers (rule template : String) : Prop :=
  Template.tokenNames (Template.pieces template.toList) ⊆
    placeholderKeys rule (parametersTold rule)

/-- A template that is given by its characters need not be decoded to find its tokens. -/
private theorem covers_ofList {rule : String} {chars : List Char}
    (h : Template.tokenNames (Template.pieces chars) ⊆
      placeholderKeys rule (parametersTold rule)) : Covers rule (String.ofList chars) := by
  unfold Covers
  rwa [String.toList_ofList]

namespace Messages

private theorem covers_bundled {tag : String} {entries : List (String × String)}
    (h : bundled? tag = some entries) : ∀ e ∈ entries, Covers e.1 e.2 := by
  unfold bundled? at h
  split at h <;> cases h
  all_goals
    simp only [english, french, spanish, String.reduceAppend, List.forall_mem_cons,
      List.not_mem_nil, false_imp_iff, implies_true, and_true]
    and_intros
    all_goals exact covers_ofList (by decide +kernel)

private theorem nodup_bundledKeys : bundledKeys.Nodup := by decide +kernel

private theorem mem_of_bundledTemplate? {tag key template : String}
    (h : bundledTemplate? tag key = some template) :
    ∃ entries, bundled? tag = some entries ∧ (key, template) ∈ entries := by
  obtain ⟨entries, he, hg⟩ := Option.bind_eq_some_iff.1 h
  have hn : (Assoc.keys entries).Nodup := by
    rw [keys_of_bundled he]
    exact nodup_bundledKeys
  have hentries : (OrderedMap.ofList entries).entries = entries :=
    OrderedMap.entries_insertAll (m := .empty) hn
  have hm := Assoc.mem_of_get? hg
  rw [LocaleTable.ofList, hentries] at hm
  exact ⟨entries, he, hm⟩

private theorem builtinNames_subset : builtinNames ⊆ bundledKeys := by decide +kernel

private theorem exists_bundledTemplate {tag rule : String} (ht : tag ∈ bundledLocales)
    (hr : rule ∈ builtinNames) :
    ∃ template, bundledTemplate? tag rule = some template ∧ Covers rule template := by
  have hk : rule ∈ bundledKeys := builtinNames_subset hr
  have hsome : (bundledTemplate? tag rule).isSome :=
    @Catalog.isSome_templates_bundled "" tag rule ht hk
  obtain ⟨template, hb⟩ := Option.isSome_iff_exists.1 hsome
  obtain ⟨entries, he, hm⟩ := mem_of_bundledTemplate? hb
  have hcovers : Covers rule template := covers_bundled he (rule, template) hm
  exact ⟨template, hb, hcovers⟩

end Messages

namespace Translator

/-- A table holds no template of a built-in rule but the bundled one of the tag. -/
def KeepsTo (tag : String) (table : LocaleTable) : Prop :=
  ∀ e ∈ table.entries.entries, e.1 ∈ builtinNames →
    Messages.bundledTemplate? tag e.1 = some e.2

instance (tag : String) (table : LocaleTable) : Decidable (KeepsTo tag table) :=
  inferInstanceAs (Decidable (∀ e ∈ table.entries.entries, _))

/-- The change gives no built-in rule another template under the tag. -/
def Change.Spares (tag : String) : Change → Prop
  | .insertTable locale table => normalize locale = tag → KeepsTo tag table
  | .loadFile files locale path => ∀ table, LocaleTable.load files locale path = .ok table →
      normalize locale = tag → KeepsTo tag table
  | .withFallback .. | .setLocale _ | .takeUp _ => True

end Translator

namespace Catalog

open Translator

variable {c : Catalog} {tag : String}

/-- Under the tag the built-in rules have their bundled templates. -/
def IsPlain (c : Catalog) (tag : String) : Prop :=
  ∀ rule ∈ builtinNames, c.templates tag rule = Messages.bundledTemplate? tag rule

theorem IsPlain.overwrite (h : c.IsPlain tag) {locale : String} {table : LocaleTable}
    (hs : normalize locale = tag → KeepsTo tag table) : (c.overwrite locale table).IsPlain tag := by
  intro rule hr
  rw [← h rule hr]
  apply foldl_put_of_agrees
  rintro rfl e he rfl
  rw [h _ hr]
  exact hs rfl e he hr

theorem IsPlain.change (h : c.IsPlain tag) {change : Change} (hs : change.Spares tag) :
    (c.change change).IsPlain tag := by
  cases change with
  | withFallback locale fallback => exact fun _ _ => rfl
  | setLocale locale => exact h
  | insertTable locale table => exact h.overwrite hs
  | loadFile files locale path =>
    rw [Catalog.change]
    cases hl : LocaleTable.load files locale path with
    | ok table => exact h.overwrite (hs table hl)
    | error _ => exact h
  | takeUp tag => exact h

theorem IsPlain.after (h : c.IsPlain tag) {history : List Change}
    (hs : ∀ change ∈ history, change.Spares tag) : (c.after history).IsPlain tag := by
  induction history generalizing c with
  | nil => exact h
  | cons change history ih =>
    obtain ⟨hc, hh⟩ := List.forall_mem_cons.1 hs
    exact ih (h.change hc) hh

end Catalog

/-- Whatever was asked for and loaded before, the bundled templates of the active language serve. -/
theorem Translator.template?_of_spared {locale fallback : String} {history : List Change}
    {t : Translator} (ht : t = (withFallback locale fallback).value.after history)
    (hs : ∀ change ∈ history, change.Spares t.locale) {rule : String} (hr : rule ∈ builtinNames) :
    t.template? rule = Messages.bundledTemplate? t.locale rule := by
  have hc := (Represents.withFallback locale fallback).after history
  rw [← ht] at hc
  have hplain : ((Catalog.bundled fallback).select locale).IsPlain t.locale := fun _ _ => rfl
  rw [hc.template?_eq, Catalog.template?, ← hc.locale]
  exact hplain.after hs rule hr

private theorem Overrides.resolve?_empty (field rule : String) :
    empty.resolve? field rule = none := rfl

/-- With a bundled language and no templates of the caller's, a message is the template of that
language with every token replaced, if the rule has its parameters. Only lone colons are left,
whatever colons there are in the field's name and the parameters. -/
theorem Validator.bundled_message_is_filled (v : Validator) (locale fallback : String)
    (history : List Translator.Change)
    (ht : v.translator = (Translator.withFallback locale fallback).value.after history)
    (hl : v.translator.locale ∈ Messages.bundledLocales)
    (hs : ∀ change ∈ history, change.Spares v.translator.locale) (ho : v.overrides = .empty)
    (rule : Rule) (hr : rule.name ∈ builtinNames) (field : String) (params : List String)
    (hp : parametersTold rule.name ≤ params.length) :
    ∃ template cutting texts,
      Messages.bundledTemplate? v.translator.locale rule.name = some template ∧
      v.translator.template? rule.name = some template ∧
      Template.IsCutting template.toList cutting ∧
      (∀ name ≠ [], .token name ∈ cutting →
        String.ofList name ∈ (placeholders field rule.name params).map Prod.fst) ∧
      List.Forall₂ (Template.Piece.Filled (placeholders field rule.name params)) cutting texts ∧
      v.message field rule params = String.ofList texts.flatten := by
  obtain ⟨template, hb, hcovers⟩ := Messages.exists_bundledTemplate hl hr
  have htemplate : v.translator.template? rule.name = some template :=
    (Translator.template?_of_spared ht hs hr).trans hb
  have hkeys : ∀ name ≠ [], .token name ∈ Template.pieces template.toList →
      String.ofList name ∈ (placeholders field rule.name params).map Prod.fst := fun _ hn hm =>
    placeholderKeys_subset_placeholders hp (hcovers (Template.mem_tokenNames hn hm))
  have hfilled : ∀ piece ∈ Template.pieces template.toList,
      piece.Filled (placeholders field rule.name params)
        (piece.fill (placeholders field rule.name params)) := by
    intro piece hm
    apply Template.Piece.Becomes.filled (Template.becomes_iff.2 rfl)
    rintro name hn rfl
    exact hkeys name hn hm
  refine ⟨template, _, _, hb, htemplate, Template.isCutting_pieces _, hkeys,
    List.forall₂_map_right_iff.2 (List.forall₂_same.2 hfilled), ?_⟩
  rw [message, Validator.template, ho, Overrides.resolve?_empty, Option.none_or, htemplate]
  rfl

/-- Languages were changed on the way to French, which got a template for a key of no rule. The
field and a parameter look like tokens. -/
theorem Validator.message_between_in_french :
    let history : List Translator.Change := [.setLocale "es",
      .insertTable "FR" (.ofList [("custom", ":open")]), .insertTable "es" (.ofList [("in", ":x")]),
      .setLocale "fr_CA"]
    let v : Validator :=
      { new with translator := (Translator.withFallback "xx" "en").value.after history }
    let rule : Rule := ⟨"between", .ofParams Checks.between, ""⟩
    let pairs := placeholders ":min" "between" ["3", ":field"]
    v.translator.locale = "fr" ∧
    (∃ template cutting texts,
      v.translator.template? "between" = some template ∧
      Template.IsCutting template.toList cutting ∧
      (∀ name ≠ [], .token name ∈ cutting → String.ofList name ∈ pairs.map Prod.fst) ∧
      List.Forall₂ (Template.Piece.Filled pairs) cutting texts ∧
      v.message ":min" rule ["3", ":field"] = String.ofList texts.flatten) ∧
    v.message ":min" rule ["3", ":field"] = "Le champ :min doit être entre 3 et :field." := by
  intro history v rule pairs
  have hlocale : v.translator.locale = "fr" := by decide +kernel
  have hl : v.translator.locale ∈ Messages.bundledLocales := by
    rw [hlocale]
    decide
  have hs : ∀ change ∈ history, change.Spares v.translator.locale := by
    rw [hlocale]
    intro change hc
    simp only [history, List.mem_cons, List.not_mem_nil, or_false] at hc
    rcases hc with rfl | rfl | rfl | rfl
    · trivial
    · have hcustom : Translator.KeepsTo "fr" (.ofList [("custom", ":open")]) := by decide +kernel
      exact fun _ => hcustom
    · have hother : Translator.normalize "es" ≠ "fr" := by decide
      exact fun h => absurd h hother
    · trivial
  obtain ⟨template, cutting, texts, -, htemplate, hcutting, hkeys, hfilled, hmessage⟩ :=
    bundled_message_is_filled v "xx" "en" history rfl hl hs rfl rule (by decide) ":min"
      ["3", ":field"] (by decide)
  exact ⟨hlocale, ⟨template, cutting, texts, htemplate, hcutting, hkeys, hfilled, hmessage⟩,
    by decide +kernel⟩

end FormCheck
