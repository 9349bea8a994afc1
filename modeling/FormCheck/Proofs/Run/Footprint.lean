import FormCheck.Proofs.Run.Grouping
import FormCheck.Proofs.Run.Prepared

/-!
What a run reads for a field: the entries of that field, its value, and the values its rules compare
it with. Whatever else differs between two runs, they report the same for the field.
-/
namespace FormCheck

inductive FieldRules.Consults (rules : FieldRules) (field : String) : String → Prop where
  | confirmation {params : List String} : ("confirmed", params) ∈ rules.listed →
      Consults rules field (confirmationField field)
  | parameter {name other : String} {params : List String} : name = "same" ∨ name = "different" →
      (name, other :: params) ∈ rules.listed → Consults rules field other

namespace FieldRules

variable {rules : FieldRules} {field other : String}

def consulted (rules : FieldRules) (field : String) : List String :=
  (rules.listed.filter fun r => isCrossField r.1).filterMap fun r =>
    Validator.siblingName? r.1 field r.2

theorem consults_iff : rules.Consults field other ↔ other ∈ rules.consulted field := by
  simp only [consulted, List.mem_filterMap, List.mem_filter, Validator.isCrossField_iff]
  constructor
  · intro h
    cases h with
    | @confirmation params hm => exact ⟨("confirmed", params), ⟨hm, by simp⟩, rfl⟩
    | @parameter name _ params hn hm =>
      rcases hn with rfl | rfl
      · exact ⟨("same", other :: params), ⟨hm, by simp⟩, rfl⟩
      · exact ⟨("different", other :: params), ⟨hm, by simp⟩, rfl⟩
  · rintro ⟨⟨name, params⟩, ⟨hm, hn⟩, hs⟩
    simp only [List.mem_cons, List.not_mem_nil, or_false] at hn
    rcases hn with rfl | hn
    · cases hs
      exact .confirmation hm
    · have hne : name ≠ "confirmed" := by rcases hn with rfl | rfl <;> decide
      rw [Validator.siblingName?, if_neg hne] at hs
      obtain ⟨rest, rfl⟩ := List.head?_eq_some_iff.1 hs
      exact .parameter hn hm

end FieldRules

namespace Validator

variable {v : Validator} {env : Surroundings} {data data' : Data} {field other name : String}
  {rule : Rule} {params : List String} {rules : FieldRules}

/-- Rules see the same in two records, of a field and of what they compare it with. -/
structure AgreeOn (v : Validator) (rules : FieldRules) (field : String) (data data' : Data) :
    Prop where
  own : v.prepared data field = v.prepared data' field
  siblings : ∀ other, rules.Consults field other → v.prepared data other = v.prepared data' other

namespace AgreeOn

private theorem of_get?_eq (hf : data.get? field = data'.get? field)
    (hc : ∀ other, rules.Consults field other → data.get? other = data'.get? other) :
    v.AgreeOn rules field data data' where
  own := by rw [prepared, prepared, hf]
  siblings other ho := by rw [prepared, prepared, hc other ho]

private theorem siblingMatches_eq (h : v.AgreeOn rules field data data')
    (hc : isCrossField name = true) (hl : (name, params) ∈ rules.listed) (value : Value) :
    v.siblingMatches data name field value params =
      v.siblingMatches data' name field value params := by
  have hs : (siblingName? name field params).bind (v.sibling? data) =
      (siblingName? name field params).bind (v.sibling? data') := by
    cases hn : siblingName? name field params with
    | none => rfl
    | some other =>
      have ho : other ∈ rules.consulted field :=
        List.mem_filterMap.2 ⟨(name, params), List.mem_filter.2 ⟨hl, hc⟩, hn⟩
      exact sibling?_congr_prepared (h.siblings other (FieldRules.consults_iff.2 ho))
  rw [siblingMatches, siblingMatches, hs]

theorem fails_iff (h : v.AgreeOn rules field data data') (hl : (name, params) ∈ rules.listed) :
    v.Fails env data field rule name params ↔ v.Fails env data' field rule name params := by
  rw [← Validator.fails_iff, ← Validator.fails_iff, h.own]
  cases hc : isCrossField name with
  | true => rw [fails_of_isCrossField hc, fails_of_isCrossField hc, h.siblingMatches_eq hc hl]
  | false => rw [fails_of_not_isCrossField hc, fails_of_not_isCrossField hc]

theorem failures_eq (h : v.AgreeOn rules field data data') :
    v.failures env data field rules.listed = v.failures env data' field rules.listed := by
  apply List.filterMap_congr
  rintro ⟨name, params⟩ hl
  simp only [failure?, h.fails_iff hl]

end AgreeOn

private theorem filter_failureLog_congr {entries entries' : List Entry}
    (he : entries.filter (fun e => e.1 == field) = entries'.filter fun e => e.1 == field)
    (ha : ∀ entry ∈ entries, entry.1 = field → v.AgreeOn entry.2 field data data') :
    (v.failureLog env data entries).filter (fun f => f.field == field) =
      (v.failureLog env data' entries').filter fun f => f.field == field := by
  rw [filter_failureLog, filter_failureLog, ← he]
  apply List.flatMap_congr
  intro entry hm
  obtain ⟨hm, hf⟩ := List.mem_filter.1 hm
  exact (ha entry hm (beq_iff_eq.1 hf)).failures_eq

private theorem mem_fields_iff {entries : List Entry} :
    field ∈ entries.map Prod.fst ↔ entries.filter (fun e => e.1 == field) ≠ [] := by
  simp [List.filter_eq_nil_iff]

/-- Two runs of a validator report the same messages and the same value for a field if they agree on
its entries, on its value, and on the values that the rules of those entries compare it with. -/
theorem result_rests_on_own_entries {r s : Report} {entries entries' : List Entry}
    (hv : (v.validate env data entries).value = .ok r)
    (hw : (v.validate env data' entries').value = .ok s)
    (he : entries.filter (fun e => e.1 == field) = entries'.filter fun e => e.1 == field)
    (hf : data.get? field = data'.get? field)
    (hc : ∀ entry ∈ entries, entry.1 = field → ∀ other, entry.2.Consults field other →
      data.get? other = data'.get? other) :
    r.fieldErrors field = s.fieldErrors field ∧ r.value? field = s.value? field := by
  have hmessages : r.fieldErrors field = s.fieldErrors field := by
    rw [fieldErrors_eq_map hv, fieldErrors_eq_map hw,
      filter_failureLog_congr he fun entry hm hn => .of_get?_eq hf (hc entry hm hn)]
  refine ⟨hmessages, ?_⟩
  have hlisted : field ∈ entries.map Prod.fst ↔ field ∈ entries'.map Prod.fst := by
    rw [mem_fields_iff, mem_fields_iff, he]
  have hprepared : v.prepared data field = v.prepared data' field := by
    rw [prepared, prepared, hf]
  rw [value?_validate hv, value?_validate hw, hmessages, hprepared]
  simp only [hlisted]

theorem result_of_interleaved_field :
    let data : Data := .ofList [("a", .text "x1"), ("b", .text "x2"), ("c", .text "y")]
    let data' : Data := .ofList [("d", .null), ("b", .text "x2"), ("a", .text "x1")]
    let entries : List Entry := [("b", .text "same:a"), ("c", .text "uuid"), ("b", .text "alpha")]
    let entries' : List Entry :=
      [("b", .text "same:a"), ("b", .text "alpha"), ("d", .text "filled|uuid")]
    ∃ r s, (new.validate .bare data entries).value = .ok r ∧
      (new.validate .bare data' entries').value = .ok s ∧ r.errors.keys = ["b", "c"] ∧
      s.errors.keys = ["b"] ∧
      (r.fieldErrors "b" = s.fieldErrors "b" ∧ r.value? "b" = s.value? "b") := by
  intro data data' entries entries'
  have hn : firstMistake? new.registry.has entries = none := by rfl
  have hn' : firstMistake? new.registry.has entries' = none := by rfl
  have hv := @validate_of_no_mistake new .bare data entries hn
  have hw := @validate_of_no_mistake new .bare data' entries' hn'
  have hc : ∀ entry ∈ entries, entry.1 = "b" → ∀ other ∈ entry.2.consulted "b", other = "a" := by
    decide
  have h := @result_rests_on_own_entries new .bare data data' "b" _ _ entries entries' hv hw rfl rfl
    fun entry hm hf other ho => by
    rw [hc entry hm hf other (FieldRules.consults_iff.1 ho)]
    rfl
  exact ⟨_, _, hv, hw, errors_keys hv, errors_keys hw, h⟩

end Validator

end FormCheck
