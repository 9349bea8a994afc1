import FormCheck.Proofs.Run.Failures

/-!
What a run reads of its validator: whether values are cleaned, how messages are worded, the active
locale, and the rules that the entries name. Validators that agree on these run alike, their logs
included.
-/
namespace FormCheck.Validator

variable {v w : Validator} {env : Surroundings} {data : Data} {entries : List Entry}

/-- Runs over these entries cannot tell the validators apart. -/
structure Interchangeable (v w : Validator) (entries : List Entry) : Prop where
  sanitizes : v.sanitizes = w.sanitizes
  message : v.message = w.message
  locale : v.translator.locale = w.translator.locale
  rules : ∀ entry ∈ entries, ∀ r ∈ entry.2.listed, v.registry.get? r.1 = w.registry.get? r.1

namespace Interchangeable

private theorem runRules_eq (h : v.Interchangeable w entries) {field : String} {value : Value}
    {rules : List (String × List String)}
    (hr : ∀ r ∈ rules, v.registry.get? r.1 = w.registry.get? r.1) (report : Report) :
    v.runRules env data field value report rules =
      w.runRules env data field value report rules := by
  induction rules generalizing report with
  | nil => rfl
  | cons listed rules ih =>
    obtain ⟨hl, hrules⟩ := List.forall_mem_cons.1 hr
    simp only [runRules, Registry.find, hl, fails_congr h.sanitizes, h.message, ih hrules]

private theorem runEntry_eq (h : v.Interchangeable w entries) {entry : Entry} (hm : entry ∈ entries)
    (report : Report) : v.runEntry env data report entry = w.runEntry env data report entry := by
  have hp : v.prepared data entry.1 = w.prepared data entry.1 := by
    rw [prepared, prepare_congr h.sanitizes, prepared]
  rw [runEntry, runEntry]
  cases hs : entry.2.toSpec with
  | error e => rfl
  | ok spec =>
    have hr := h.rules entry hm
    rw [FieldRules.listed_of_toSpec hs] at hr
    simp only [hp, h.runRules_eq hr]

private theorem runEntries_eq (h : v.Interchangeable w entries) {part : List Entry}
    (hp : part ⊆ entries)
    (report : Report) : v.runEntries env data report part = w.runEntries env data report part := by
  induction part generalizing report with
  | nil => rfl
  | cons entry part ih =>
    obtain ⟨hm, hpart⟩ := List.cons_subset.1 hp
    simp only [runEntries, h.runEntry_eq hm, ih hpart]

theorem validate_eq (h : v.Interchangeable w entries) (env : Surroundings) (data : Data) :
    v.validate env data entries = w.validate env data entries := by
  simp only [validate, h.runEntries_eq (List.Subset.refl entries), h.locale]

end Interchangeable

theorem interchangeable_of_registry {registry : Registry}
    (h : ∀ entry ∈ entries, ∀ r ∈ entry.2.listed, registry.get? r.1 = v.registry.get? r.1) :
    Interchangeable { v with registry } v entries where
  sanitizes := rfl
  message := rfl
  locale := rfl
  rules := h

end FormCheck.Validator
