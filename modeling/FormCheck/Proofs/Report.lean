import Mathlib.Data.List.Induction
import FormCheck.Proofs.OrderedMap
import FormCheck.Report

/-!
What a report holds after the steps of a run. Its messages are a flat list of pairs grouped by
field, and its values are those of the fields met so far that have no message.
-/
namespace FormCheck

/-- The messages of each field in order, the fields in the order of their first message. -/
def groupByField (log : List (String × String)) : List (String × List String) :=
  (log.map Prod.fst).eraseDups.map fun field =>
    (field, (log.filter fun m => m.1 == field).map Prod.snd)

example : groupByField [("b", "x"), ("a", "y"), ("b", "z")] =
    [("b", ["x", "z"]), ("a", ["y"])] := by
  decide

private theorem eraseDups_concat (fields : List String) (field : String) :
    (fields ++ [field]).eraseDups =
      if field ∈ fields then fields.eraseDups else fields.eraseDups ++ [field] := by
  rw [List.eraseDups_append]
  by_cases h : field ∈ fields <;> simp [List.removeAll, h, List.eraseDups_cons]

theorem nodup_eraseDups (fields : List String) : fields.eraseDups.Nodup := by
  induction fields using List.reverseRecOn with
  | nil => exact List.nodup_nil
  | append_singleton fields field ih =>
    rw [eraseDups_concat]
    split
    · exact ih
    · next h =>
      rw [← List.concat_eq_append]
      exact ih.concat (mt List.mem_eraseDups.1 h)

namespace Report

@[simp] theorem settle_errors (r : Report) (field : String) (value : Value) :
    (r.settle field value).errors = r.errors := by
  unfold settle
  split <;> rfl

@[simp] theorem settle_fieldErrors (r : Report) (field other : String) (value : Value) :
    (r.settle field value).fieldErrors other = r.fieldErrors other := by
  simp [fieldErrors]

@[simp] theorem settle_hasFieldErrors (r : Report) (field other : String) (value : Value) :
    (r.settle field value).hasFieldErrors other = r.hasFieldErrors other := by
  simp [hasFieldErrors]

theorem settle_of_failed {r : Report} {field : String} (h : r.hasFieldErrors field = true)
    (value : Value) : (r.settle field value).validated = r.validated.erase field := by
  rw [settle, if_pos h]

theorem settle_of_passed {r : Report} {field : String} (h : r.hasFieldErrors field = false)
    (value : Value) : (r.settle field value).validated = r.validated.insert field value := by
  rw [settle, if_neg (by simp [h])]

theorem hasFieldErrors_iff {r : Report} {field : String} :
    r.hasFieldErrors field = true ↔ field ∈ r.errors.keys :=
  OrderedMap.contains_iff

private theorem keys_addError (r : Report) (field message : String) :
    (r.addError field message).errors.keys =
      if field ∈ r.errors.keys then r.errors.keys else r.errors.keys ++ [field] :=
  OrderedMap.keys_insert _ _ _

theorem fieldErrors_addError (r : Report) (field message other : String) :
    (r.addError field message).fieldErrors other =
      if other = field then r.fieldErrors field ++ [message] else r.fieldErrors other := by
  simp only [addError, fieldErrors, OrderedMap.get?_insert]
  split <;> rfl

theorem hasFieldErrors_addError (r : Report) (field message other : String) :
    (r.addError field message).hasFieldErrors other =
      (other == field || r.hasFieldErrors other) := by
  simp only [hasFieldErrors, addError, OrderedMap.contains, OrderedMap.get?_insert]
  split <;> simp_all

theorem errors_entries (r : Report) :
    r.errors.entries = r.errors.keys.map fun field => (field, r.fieldErrors field) := by
  apply OrderedMap.entries_eq_map
  intro field hf
  obtain ⟨messages, hm⟩ := Option.isSome_iff_exists.1 (OrderedMap.contains_iff.2 hf)
  rw [fieldErrors, hm, Option.getD_some]

theorem errorCount_eq_foldl (r : Report) :
    r.errorCount =
      r.errors.keys.foldl (fun count field => count + (r.fieldErrors field).length) 0 := by
  rw [errorCount, OrderedMap.values, r.errors_entries, List.map_map, List.foldl_map]
  rfl

/-- The messages of the report are those of a flat list, grouped by field. -/
structure Collects (r : Report) (log : List (String × String)) : Prop where
  keys : r.errors.keys = (log.map Prod.fst).eraseDups
  messages : ∀ field, r.fieldErrors field = (log.filter fun m => m.1 == field).map Prod.snd

namespace Collects

theorem empty : Collects .empty [] := ⟨rfl, fun _ => rfl⟩

theorem addError {r : Report} {log : List (String × String)} (h : r.Collects log)
    (field message : String) : (r.addError field message).Collects (log ++ [(field, message)]) where
  keys := by
    have hm : field ∈ r.errors.keys ↔ field ∈ log.map Prod.fst := by
      rw [h.keys, List.mem_eraseDups]
    rw [keys_addError, List.map_append, List.map_singleton, eraseDups_concat, ← h.keys]
    simp only [hm]
  messages other := by
    rw [fieldErrors_addError, List.filter_append, List.map_append, ← h.messages other]
    by_cases ho : other = field
    · subst ho
      simp
    · simp [ho, Ne.symm ho]

theorem settle {r : Report} {log : List (String × String)} (h : r.Collects log)
    (field : String) (value : Value) : (r.settle field value).Collects log where
  keys := by rw [settle_errors, h.keys]
  messages other := by rw [settle_fieldErrors, h.messages]

theorem hasFieldErrors_iff {r : Report} {log : List (String × String)} (h : r.Collects log)
    {field : String} : r.hasFieldErrors field = true ↔ field ∈ log.map Prod.fst := by
  rw [Report.hasFieldErrors_iff, h.keys, List.mem_eraseDups]

theorem fieldErrors_eq_nil_iff {r : Report} {log : List (String × String)} (h : r.Collects log)
    {field : String} : r.fieldErrors field = [] ↔ r.hasFieldErrors field = false := by
  rw [h.messages, List.map_eq_nil_iff, List.filter_eq_nil_iff, ← Bool.not_eq_true,
    h.hasFieldErrors_iff, List.mem_map]
  simp only [beq_iff_eq, not_exists, not_and]

theorem isValid_iff {r : Report} {log : List (String × String)} (h : r.Collects log) :
    r.isValid = true ↔ log = [] := by
  rw [isValid, OrderedMap.isEmpty_iff, h.keys]
  cases log <;> simp [List.eraseDups_cons]

theorem entries_eq {r : Report} {log : List (String × String)} (h : r.Collects log) :
    r.errors.entries = groupByField log := by
  rw [errors_entries, groupByField, ← h.keys]
  simp only [h.messages]

end Collects

/-- The values of the report are those of the fields met so far that have no message. -/
structure Settled (r : Report) (fields : List String) (value : String → Value) : Prop where
  keys : r.validated.keys = fields.eraseDups.filter fun field => !r.hasFieldErrors field
  values : ∀ field ∈ r.validated.keys, r.validated.get? field = some (value field)

namespace Settled

variable {r s : Report} {fields : List String} {field : String} {value : String → Value}

theorem empty (value : String → Value) : Settled .empty [] value :=
  ⟨rfl, fun _ h => nomatch h⟩

theorem entries_eq (h : r.Settled fields value) :
    r.validated.entries =
      (fields.eraseDups.filter fun field => !r.hasFieldErrors field).map
        fun field => (field, value field) := by
  rw [← h.keys]
  exact OrderedMap.entries_eq_map h.values

private theorem settle_failed (h : r.Settled fields value) (hv : s.validated = r.validated)
    (ho : ∀ other, other ≠ field → s.hasFieldErrors other = r.hasFieldErrors other)
    (hs : s.hasFieldErrors field = true) :
    (s.settle field (value field)).Settled (fields ++ [field]) value where
  keys := by
    have hkept : ∀ other, (!s.hasFieldErrors other) =
        (other != field && !r.hasFieldErrors other) := by
      intro other
      by_cases hf : other = field
      · simp [hf, hs]
      · simp [hf, ho other hf]
    rw [settle_of_failed hs, OrderedMap.keys_erase, hv, h.keys, List.filter_filter,
      eraseDups_concat]
    simp only [settle_hasFieldErrors, hkept]
    split <;> simp
  values other hm := by
    rw [settle_of_failed hs, OrderedMap.keys_erase, hv, List.mem_filter] at hm
    have hne : other ≠ field := by simpa using hm.2
    rw [settle_of_failed hs, OrderedMap.get?_erase_of_ne _ hne, hv]
    exact h.values other hm.1

private theorem settle_passed (h : r.Settled fields value) (hv : s.validated = r.validated)
    (ho : ∀ other, s.hasFieldErrors other = r.hasFieldErrors other)
    (hs : s.hasFieldErrors field = false) :
    (s.settle field (value field)).Settled (fields ++ [field]) value where
  keys := by
    have hr : r.hasFieldErrors field = false := by rw [← ho, hs]
    have hm : field ∈ r.validated.keys ↔ field ∈ fields := by
      rw [h.keys, List.mem_filter, List.mem_eraseDups, hr]
      simp
    rw [settle_of_passed hs, OrderedMap.keys_insert, hv, eraseDups_concat]
    simp only [settle_hasFieldErrors, ho, hm]
    split
    · exact h.keys
    · rw [h.keys, List.filter_append]
      simp [hr]
  values other hm := by
    rw [settle_of_passed hs, OrderedMap.get?_insert, hv]
    split
    · next heq => rw [heq]
    · next hne =>
      rw [settle_of_passed hs, OrderedMap.mem_keys_insert, hv] at hm
      exact h.values other (hm.resolve_left hne)

theorem settle (h : r.Settled fields value) (s : Report) (field : String)
    (hv : s.validated = r.validated)
    (ho : ∀ other, other ≠ field → s.hasFieldErrors other = r.hasFieldErrors other)
    (hm : r.hasFieldErrors field = true → s.hasFieldErrors field = true) :
    (s.settle field (value field)).Settled (fields ++ [field]) value := by
  cases hs : s.hasFieldErrors field with
  | true => exact h.settle_failed hv ho hs
  | false =>
    refine h.settle_passed hv (fun other => ?_) hs
    by_cases hf : other = field
    · subst hf
      cases hr : r.hasFieldErrors other with
      | true => rw [hm hr] at hs; cases hs
      | false => exact hs
    · exact ho other hf

end Settled

end Report

end FormCheck
