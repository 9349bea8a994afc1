import Mathlib.Data.List.Induction
import Mathlib.Data.List.Sort
import Mathlib.Data.String.Basic
import FormCheck.Proofs.Run.Interchange
import FormCheck.Proofs.Run.Mistakes

/-!
A registry after any registrations. Under a name stands the rule that was registered last under it,
with that name of its own, and the others are as they were; so a rule that no entry names is not
seen by a run.
-/
namespace FormCheck

namespace OrderedMap

variable {α : Type}

private theorem mem_sortedKeys {m : OrderedMap α} {key : String} :
    key ∈ m.sortedKeys ↔ key ∈ m.keys :=
  (List.mergeSort_perm _ _).mem_iff

private theorem length_sortedKeys (m : OrderedMap α) : m.sortedKeys.length = m.size := by
  rw [sortedKeys, List.length_mergeSort, keys, Assoc.keys, List.length_map, size]

private theorem pairwise_sortedKeys (m : OrderedMap α) : m.sortedKeys.Pairwise (· < ·) := by
  have hn : m.sortedKeys.Nodup := (List.mergeSort_perm _ _).nodup_iff.2 m.nodup_keys
  have hs : m.sortedKeys.Pairwise (· ≤ ·) := List.pairwise_mergeSort' _ _
  exact hs.imp₂ (fun _ _ => lt_of_le_of_ne) hn

end OrderedMap

namespace Registry

variable {history : List Rule} {name : String} {rule : Rule}

def after (r : Registry) (history : List Rule) : Registry :=
  history.foldl (fun r rule => (r.register rule).value) r

def lastNamed? (history : List Rule) (name : String) : Option Rule :=
  (history.filter fun rule => rule.name == name).getLast?

theorem after_append (r : Registry) (history more : List Rule) :
    r.after (history ++ more) = (r.after history).after more :=
  List.foldl_append

theorem after_append_singleton (r : Registry) (history : List Rule) (rule : Rule) :
    r.after (history ++ [rule]) = (r.after history).insert rule :=
  r.after_append history [rule]

theorem builtin_eq_after : builtin = empty.after builtinRules := rfl

theorem get?_insert (r : Registry) (rule : Rule) (name : String) :
    (r.insert rule).get? name = if name = rule.name then some rule else r.get? name :=
  OrderedMap.get?_insert r.rules rule.name name rule

private theorem lastNamed?_append_singleton (history : List Rule) (rule : Rule) (name : String) :
    lastNamed? (history ++ [rule]) name =
      if name = rule.name then some rule else lastNamed? history name := by
  rw [lastNamed?, List.filter_append, List.filter_cons, List.filter_nil]
  by_cases h : name = rule.name
  · simp [h]
  · simp only [beq_iff_eq, Ne.symm h, h, if_false, List.append_nil, lastNamed?]

theorem get?_after (r : Registry) (history : List Rule) (name : String) :
    (r.after history).get? name = (lastNamed? history name).or (r.get? name) := by
  induction history using List.reverseRecOn with
  | nil => rfl
  | append_singleton history rule ih =>
    rw [after_append_singleton, get?_insert, lastNamed?_append_singleton, ih]
    split <;> rfl

private theorem find_after_empty (history : List Rule) (name : String) :
    (empty.after history).find name =
      (lastNamed? history name).elim (.error (.unknownRule name)) .ok := by
  rw [find, get?_after]
  exact congrArg (Option.elim · _ _) Option.or_none

private theorem find_eq_ok_iff {r : Registry} :
    r.find name = .ok rule ↔ r.get? name = some rule := by
  rw [find]
  cases r.get? name <;> simp

theorem name_of_lastNamed? (h : lastNamed? history name = some rule) : rule.name = name := by
  have hm := List.mem_of_getLast? h
  exact beq_iff_eq.1 (List.mem_filter.1 hm).2

theorem isSome_lastNamed?_iff :
    (lastNamed? history name).isSome = true ↔ ∃ rule ∈ history, rule.name = name := by
  rw [lastNamed?, List.getLast?_isSome, ne_eq, List.filter_eq_nil_iff]
  simp

end Registry

namespace Validator

variable {v : Validator} {entries : List Entry} {rule : Rule}

private theorem interchangeable_register
    (h : ∀ entry ∈ entries, rule.name ∉ entry.2.listed.map Prod.fst) :
    Interchangeable (v.register rule).value v entries :=
  interchangeable_of_registry fun entry hm r hr => by
    have hne : r.1 ≠ rule.name := fun heq => h entry hm (heq ▸ List.mem_map_of_mem hr)
    exact (Registry.get?_insert v.registry rule r.1).trans (if_neg hne)

end Validator

namespace Registry

/-- Whatever has been registered, a name is known if and only if a rule was registered under it. It
stands for the last of these rules, whose own name it is, so messages are looked up and filled in
for the name that a list calls the rule by. The names come in order, each once. A registration
changes no run over entries that do not name the rule. -/
theorem last_registration_stands (history : List Rule) :
    let r := empty.after history
    (∀ name, (∃ rule, r.find name = .ok rule) ↔ ∃ rule ∈ history, rule.name = name) ∧
    (∀ name, r.find name = (lastNamed? history name).elim (.error (.unknownRule name)) .ok) ∧
    (∀ name rule, r.find name = .ok rule → rule.name = name ∧
      ∀ (v : Validator) field params, v.message field rule params =
        Template.interpolate
          (((v.overrides.resolve? field name).or (v.translator.template? name)).getD rule.template)
          (placeholders field name params)) ∧
    (r.names.Pairwise (· < ·) ∧ r.names.length = r.size ∧
      ∀ name, name ∈ r.names ↔ ∃ rule ∈ history, rule.name = name) ∧
    ∀ (v : Validator) (rule : Rule) (entries : List Entry),
      (∀ entry ∈ entries, rule.name ∉ entry.2.listed.map Prod.fst) →
      ∀ env data,
        (v.register rule).value.validate env data entries = v.validate env data entries := by
  intro r
  have hget : ∀ name, r.get? name = lastNamed? history name := fun name =>
    (get?_after empty history name).trans Option.or_none
  have hknown : ∀ name, name ∈ r.names ↔ ∃ rule ∈ history, rule.name = name := by
    intro name
    rw [names, OrderedMap.mem_sortedKeys, ← OrderedMap.contains_iff, ← isSome_lastNamed?_iff,
      ← hget]
    rfl
  refine ⟨?_, find_after_empty history, ?_, ⟨?_, ?_, hknown⟩, ?_⟩
  · intro name
    simp only [find_eq_ok_iff, hget, ← Option.isSome_iff_exists, isSome_lastNamed?_iff]
  · intro name rule h
    have hn : rule.name = name := by
      rw [find_eq_ok_iff, hget] at h
      exact name_of_lastNamed? h
    subst hn
    exact ⟨rfl, fun _ _ _ => rfl⟩
  · exact OrderedMap.pairwise_sortedKeys r.rules
  · exact OrderedMap.length_sortedKeys r.rules
  · intro v rule entries h env data
    exact (Validator.interchangeable_register h).validate_eq env data

theorem last_registration_of_email :
    let strict : Rule := ⟨"email", fun _ _ _ => false, "No :field."⟩
    let lax : Rule := ⟨"email", fun _ _ _ => true, "Any :field."⟩
    let entries : List Entry := [("a", .text "required|min:3"), ("b", .text "same:a|filled")]
    (empty.after (builtinRules ++ [strict, lax])).find "email" = .ok lax ∧ lax.name = "email" ∧
      (∀ entry ∈ entries, lax.name ∉ entry.2.listed.map Prod.fst) ∧
      ∀ data, (Validator.new.register lax).value.validate .bare data entries =
        Validator.new.validate .bare data entries := by
  intro strict lax entries
  obtain ⟨-, hfind, hname, -, hruns⟩ := last_registration_stands (builtinRules ++ [strict, lax])
  have hlast : (empty.after (builtinRules ++ [strict, lax])).find "email" = .ok lax := by
    rw [hfind]
    rfl
  have hnot : ∀ entry ∈ entries, lax.name ∉ entry.2.listed.map Prod.fst := by decide
  exact ⟨hlast, (hname _ _ hlast).1, hnot, hruns .new lax entries hnot .bare⟩

end Registry

end FormCheck
