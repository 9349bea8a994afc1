import Mathlib.Data.List.Induction
import FormCheck.Proofs.Messages.Overrides
import FormCheck.Validator

/-!
Overrides after any history. A template under `field.rule` comes first, then the table of the field,
then a template under the rule, and each of them is what the last change of its key left there. What
is found is filled in once, before the active locale and the rule's own template.
-/
namespace FormCheck.Overrides

/-- What a caller puts in: a template under a key, or one for a rule into the table of a field. -/
inductive Change where
  | flat (key text : String)
  | nested (field rule text : String)

def Change.key : Change → String
  | flat key _ => key
  | nested field _ _ => field

def change (o : Overrides) : Change → Overrides
  | .flat key text => o.insert key text
  | .nested field rule text => o.insertNested field rule text

def after (history : List Change) : Overrides := history.foldl change empty

/-- A change of the history that no later one undoes. -/
def Stands (undoes : Change → Prop) (history : List Change) (c : Change) : Prop :=
  ∃ before after, history = before ++ c :: after ∧ ∀ d ∈ after, ¬undoes d

def IsLast (history : List Change) (c : Change) : Prop :=
  Stands (fun d => d.key = c.key) history c

/-- The latest template for a rule in the table of a field, with no template under the field since
then. -/
def IsLatest (history : List Change) (field rule text : String) : Prop :=
  Stands (fun d => (∃ t, d = .flat field t) ∨ ∃ t, d = .nested field rule t) history
    (.nested field rule text)

/-- What a history says of a field that fails a rule. -/
inductive Answer (history : List Change) (field rule : String) : Option String → Prop where
  | whole {text : String} : IsLast history (.flat (field ++ "." ++ rule) text) →
      Answer history field rule (some text)
  | table {other sample text : String} :
      (∀ t, ¬IsLast history (.flat (field ++ "." ++ rule) t)) →
      IsLast history (.nested field other sample) → IsLatest history field rule text →
      Answer history field rule (some text)
  | rule {text : String} : (∀ t, ¬IsLast history (.flat (field ++ "." ++ rule) t)) →
      (∀ other sample t, IsLast history (.nested field other sample) →
        ¬IsLatest history field rule t) →
      IsLast history (.flat rule text) → Answer history field rule (some text)
  | none : (∀ t, ¬IsLast history (.flat (field ++ "." ++ rule) t)) →
      (∀ other sample t, IsLast history (.nested field other sample) →
        ¬IsLatest history field rule t) →
      (∀ t, ¬IsLast history (.flat rule t)) → Answer history field rule Option.none

variable {history : List Change} {c d : Change} {key field rule text : String}

theorem after_append_singleton (history : List Change) (c : Change) :
    after (history ++ [c]) = (after history).change c :=
  List.foldl_append

private theorem not_stands_nil (undoes : Change → Prop) (c : Change) : ¬Stands undoes [] c := by
  rintro ⟨before, after, hs, -⟩
  simp at hs

private theorem stands_append_singleton {undoes : Change → Prop} :
    Stands undoes (history ++ [d]) c ↔ d = c ∨ ¬undoes d ∧ Stands undoes history c := by
  constructor
  · rintro ⟨before, after, hs, ha⟩
    rcases List.eq_nil_or_concat after with rfl | ⟨rest, e, rfl⟩
    · exact .inl (List.singleton_inj.1 (List.append_inj' hs rfl).2)
    · have hs' : history ++ [d] = (before ++ c :: rest) ++ [e] := by simpa using hs
      obtain ⟨hhistory, he⟩ := List.append_inj' hs' rfl
      obtain rfl := List.singleton_inj.1 he
      rw [List.concat_eq_append, List.forall_mem_append, List.forall_mem_singleton] at ha
      exact .inr ⟨ha.2, before, rest, hhistory, ha.1⟩
  · rintro (rfl | ⟨hd, before, after, rfl, ha⟩)
    · exact ⟨history, [], rfl, nofun⟩
    · refine ⟨before, after ++ [d], by simp, ?_⟩
      rw [List.forall_mem_append, List.forall_mem_singleton]
      exact ⟨ha, hd⟩

private theorem flat?_after_iff :
    (after history).flat? key = some text ↔ IsLast history (.flat key text) := by
  induction history using List.reverseRecOn with
  | nil => exact iff_of_false nofun (not_stands_nil _ _)
  | append_singleton history c ih =>
    rw [after_append_singleton, IsLast, stands_append_singleton, ← IsLast, ← ih]
    cases c with
    | flat k t =>
      rw [change, flat?_insert]
      by_cases hk : key = k
      · subst hk
        simp [Change.key]
      · simp [Change.key, hk, Ne.symm hk]
    | nested f r t =>
      rw [change, flat?_insertNested]
      by_cases hk : key = f
      · subst hk
        simp [Change.key]
      · simp [Change.key, hk, Ne.symm hk]

private theorem nested?_after_iff :
    (after history).nested? field rule = some text ↔ IsLatest history field rule text := by
  induction history using List.reverseRecOn with
  | nil => exact iff_of_false nofun (not_stands_nil _ _)
  | append_singleton history c ih =>
    rw [after_append_singleton, IsLatest, stands_append_singleton, ← IsLatest, ← ih]
    cases c with
    | flat k t =>
      rw [change, nested?_insert]
      by_cases hk : field = k
      · subst hk
        simp
      · simp [hk, Ne.symm hk]
    | nested f r t =>
      rw [change, nested?_insertNested]
      by_cases hk : field = f ∧ rule = r
      · obtain ⟨rfl, rfl⟩ := hk
        simp
      · have hother : Change.nested f r t ≠ .nested field rule text := by
          rintro ⟨⟩
          exact hk ⟨rfl, rfl⟩
        have hkeeps : ¬((∃ s, Change.nested f r t = .flat field s) ∨
            ∃ s, Change.nested f r t = .nested field rule s) := by
          rintro (⟨s, ⟨⟩⟩ | ⟨s, ⟨⟩⟩)
          exact hk ⟨rfl, rfl⟩
        rw [if_neg hk, or_iff_right hother, and_iff_right hkeeps]

private theorem flat?_after_eq_none_iff :
    (after history).flat? key = none ↔ ∀ t, ¬IsLast history (.flat key t) := by
  simp only [Option.eq_none_iff_forall_ne_some, ne_eq, flat?_after_iff]

private theorem IsLatest.exists_isLast (h : IsLatest history field rule text) :
    ∃ other sample, IsLast history (.nested field other sample) := by
  induction history using List.reverseRecOn with
  | nil => exact absurd h (not_stands_nil _ _)
  | append_singleton history c ih =>
    rw [IsLatest, stands_append_singleton, ← IsLatest] at h
    simp only [IsLast, stands_append_singleton]
    rcases h with rfl | ⟨hkeeps, h⟩
    · exact ⟨rule, text, .inl rfl⟩
    · by_cases hk : c.key = field
      · cases c with
        | flat k t =>
          cases hk
          exact absurd (.inl ⟨t, rfl⟩) hkeeps
        | nested f r t =>
          cases hk
          exact ⟨r, t, .inl rfl⟩
      · obtain ⟨other, sample, hl⟩ := ih h
        exact ⟨other, sample, .inr ⟨hk, hl⟩⟩

private theorem nested?_after_eq_none_iff :
    (after history).nested? field rule = none ↔
      ∀ other sample t, IsLast history (.nested field other sample) →
        ¬IsLatest history field rule t := by
  simp only [Option.eq_none_iff_forall_ne_some, ne_eq, nested?_after_iff]
  constructor
  · exact fun h _ _ t _ => h t
  · intro h t ht
    obtain ⟨other, sample, hl⟩ := ht.exists_isLast
    exact h other sample t hl ht

private theorem resolve?_after_iff {answer : Option String} :
    (after history).resolve? field rule = answer ↔ Answer history field rule answer := by
  rw [resolve?]
  constructor
  · -- The three places are looked up one after the other, as the answer lists them.
    rintro rfl
    cases hw : (after history).flat? (field ++ "." ++ rule) with
    | some text => exact .whole (flat?_after_iff.1 hw)
    | none =>
      have hwhole := flat?_after_eq_none_iff.1 hw
      cases ht : (after history).nested? field rule with
      | some text =>
        have hlatest := nested?_after_iff.1 ht
        obtain ⟨other, sample, hl⟩ := hlatest.exists_isLast
        exact .table hwhole hl hlatest
      | none =>
        have htable := nested?_after_eq_none_iff.1 ht
        cases hr : (after history).flat? rule with
        | some text => exact .rule hwhole htable (flat?_after_iff.1 hr)
        | none => exact .none hwhole htable (flat?_after_eq_none_iff.1 hr)
  · intro h
    cases h with
    | whole hw =>
      rw [flat?_after_iff.2 hw]
      rfl
    | table hw _ ht =>
      rw [flat?_after_eq_none_iff.2 hw, nested?_after_iff.2 ht]
      rfl
    | rule hw ht hr =>
      rw [flat?_after_eq_none_iff.2 hw, nested?_after_eq_none_iff.2 ht, flat?_after_iff.2 hr]
      rfl
    | none hw ht hr =>
      rw [flat?_after_eq_none_iff.2 hw, nested?_after_eq_none_iff.2 ht,
        flat?_after_eq_none_iff.2 hr]
      rfl

private theorem ofList_eq_after (pairs : List (String × String)) :
    ofList pairs = after (pairs.map fun p => .flat p.1 p.2) := by
  rw [after, List.foldl_map]
  rfl

/-- After any changes, pairs that are collected among them, a field that fails a rule is answered as
the history says, and its message is that template with the tokens filled in, or else the template
of the active locale, or else that of the rule. -/
theorem messages_of_history (v : Validator) (history : List Change) (field : String) (rule : Rule)
    (params : List String) :
    (∀ name answer, (after history).resolve? field name = answer ↔
      Answer history field name answer) ∧
    (∀ pairs, ofList pairs = after (pairs.map fun p => .flat p.1 p.2)) ∧
    ∀ answer, Answer history field rule.name answer →
      { v with overrides := after history }.message field rule params =
        Template.interpolate
          ((answer.or (v.translator.template? rule.name)).getD rule.template)
          (placeholders field rule.name params) := by
  refine ⟨fun _ _ => resolve?_after_iff, ofList_eq_after, fun answer h => ?_⟩
  rw [Validator.message, Validator.template, resolve?_after_iff.2 h]

/-- The table of `email` gives way to a template and begins anew, and a table under `email.max` hides
the template there; the colon of a parameter is not filled in again. -/
theorem messages_of_displaced_table :
    let history : List Change :=
      [.flat "max" "Shorter.", .nested "email" "required" "Old.", .nested "email" "max" "Lost.",
        .flat "email" "No address.", .nested "email" "required" "No :field but :value.",
        .flat "email.max" "Hidden.", .nested "email.max" "min" "Longer."]
    let required : Rule := ⟨"required", fun _ _ _ => false, "Nothing there."⟩
    Answer history "email" "required" (some "No :field but :value.") ∧
      Answer history "email" "max" (some "Shorter.") ∧ Answer history "email" "min" none ∧
      { Validator.new with overrides := after history }.message "email" required [":field"] =
        "No email but :field." := by
  intro history required
  obtain ⟨hanswer, -, hmessage⟩ := messages_of_history .new history "email" required [":field"]
  have hrequired := (hanswer "required" (some "No :field but :value.")).1 (by decide)
  refine ⟨hrequired, (hanswer "max" _).1 (by decide), (hanswer "min" _).1 (by decide), ?_⟩
  exact (hmessage _ hrequired).trans (by decide)

end FormCheck.Overrides
