import FormCheck.Messages.Overrides
import FormCheck.Proofs.OrderedMap

/-!
What a flat template leaves of the other overrides. A key holds one entry, so a template put under
the name of a field takes the place of the table there; under any other key it is seen only by
those who ask for it.
-/
namespace FormCheck.Overrides

variable {o : Overrides} {key text field rule : String}

theorem flat?_insert (o : Overrides) (key text k : String) :
    (o.insert key text).flat? k = if k = key then some text else o.flat? k := by
  rw [flat?, insert, OrderedMap.get?_insert]
  by_cases h : k = key
  · rw [if_pos h, if_pos h]
  · rw [if_neg h, if_neg h, flat?]

theorem nested?_insert (o : Overrides) (key text field rule : String) :
    (o.insert key text).nested? field rule =
      if field = key then none else o.nested? field rule := by
  rw [nested?, tableOf, insert, OrderedMap.get?_insert]
  by_cases h : field = key
  · rw [if_pos h, if_pos h, OrderedMap.get?_empty]
  · rw [if_neg h, if_neg h, nested?, tableOf]

theorem flat?_insertNested (o : Overrides) (field rule text k : String) :
    (o.insertNested field rule text).flat? k = if k = field then none else o.flat? k := by
  rw [flat?, insertNested, OrderedMap.get?_insert]
  by_cases h : k = field
  · rw [if_pos h, if_pos h]
  · rw [if_neg h, if_neg h, flat?]

theorem nested?_insertNested (o : Overrides) (field rule text f r : String) :
    (o.insertNested field rule text).nested? f r =
      if f = field ∧ r = rule then some text else o.nested? f r := by
  rw [nested?, tableOf, insertNested, OrderedMap.get?_insert]
  by_cases hf : f = field
  · subst hf
    rw [if_pos rfl, OrderedMap.get?_insert, nested?]
    simp only [true_and]
  · rw [if_neg hf, if_neg (fun h => hf h.1), nested?, tableOf]

private theorem resolve?_insert (hfull : key ≠ field ++ "." ++ rule) (hrule : key ≠ rule) :
    (o.insert key text).resolve? field rule =
      (o.flat? (field ++ "." ++ rule)).or
        ((if field = key then none else o.nested? field rule).or (o.flat? rule)) := by
  rw [resolve?, flat?_insert, nested?_insert, flat?_insert, if_neg hfull.symm, if_neg hrule.symm]

/-- Dropping the middle of three sources shows only where it was the one that answered. -/
private theorem or_eq_or_or_iff {α : Type} (first middle last : Option α) :
    first.or last = first.or (middle.or last) ↔
      middle = none ∨ first.isSome ∨ middle = last := by
  cases first <;> cases middle <;> cases last <;> simp [eq_comm]

/-- A template under a key that is neither `field.rule` nor the rule changes no answer, unless its
key is the field and a template for the rule in the table there was the answer. Then the answer is
what it would be without that table. -/
theorem resolve?_insert_iff (o : Overrides) (text : String) (hfull : key ≠ field ++ "." ++ rule)
    (hrule : key ≠ rule) :
    ((o.insert key text).resolve? field rule = o.resolve? field rule ↔
      (key = field → o.nested? field rule = none ∨ (o.flat? (field ++ "." ++ rule)).isSome ∨
        o.nested? field rule = o.flat? rule)) ∧
    (key = field → (o.insert key text).resolve? field rule =
      (o.flat? (field ++ "." ++ rule)).or (o.flat? rule)) := by
  rw [resolve?_insert hfull hrule]
  by_cases hk : key = field
  · rw [if_pos hk.symm, Option.none_or, resolve?, or_eq_or_or_iff]
    exact ⟨⟨fun h _ => h, fun h => h hk⟩, fun _ => rfl⟩
  · rw [if_neg (Ne.symm hk)]
    exact ⟨iff_of_true rfl fun h => absurd h hk, fun h => absurd h hk⟩

theorem resolve?_insert_iff_of_field_email :
    let o := ((empty.insertNested "email" "required" "We need it.").insertNested
      "email" "max" "Too long.").insert "max" "Shorter, please."
    "email" ≠ "email" ++ "." ++ "max" ∧ "email" ≠ "max" ∧
      (o.insert "email" "No address.").resolve? "email" "max" = some "Shorter, please." := by
  intro o
  refine ⟨by decide, by decide, ?_⟩
  rw [(resolve?_insert_iff o "No address." (by decide) (by decide)).2 rfl]
  decide

/-- A template for all addresses takes away the one for an address that is missing. -/
theorem flat_template_displaces_table :
    let o := empty.insertNested "email" "required" "We need it."
    "email" ≠ "email" ++ "." ++ "required" ∧ "email" ≠ "required" ∧
      o.resolve? "email" "required" = some "We need it." ∧
      (o.insert "email" "No address.").resolve? "email" "required" = none := by
  decide

end FormCheck.Overrides
