import FormCheck.Validator

/-!
When a field fails a rule, said without the order in which a run decides it, and the log of all
failures of a list of entries.
-/
namespace FormCheck

def Surroundings.bare : Surroundings :=
  ⟨.empty, ⟨⟨2000, 1, 1, by decide, by decide, by decide⟩, .midnight⟩⟩

/-- A rule that a field fails, with the name and the parameters under which the list calls it. -/
structure Failure where
  field : String
  rule : Rule
  name : String
  params : List String

/-- The names and parameters of the rules, none if the text cannot be read. -/
def FieldRules.listed (rules : FieldRules) : List (String × List String) :=
  match rules.toSpec with
  | .ok list => list.toList
  | .error _ => []

theorem FieldRules.listed_of_toSpec {rules : FieldRules} {list : RuleSpec}
    (h : rules.toSpec = .ok list) : rules.listed = list.toList := by
  rw [listed, h]

namespace Validator

variable {v : Validator} {env : Surroundings} {data : Data} {field name : String} {rule : Rule}
  {params : List String}

/-- What a cross-field rule compares the field with: the other field's value, if there is one and
it is not null, prepared like the field's own. -/
def IsSibling (v : Validator) (data : Data) (field name : String) (params : List String)
    (sibling : Value) : Prop :=
  ∃ other value, siblingName? name field params = some other ∧ data.get? other = some value ∧
    value ≠ .null ∧ sibling = v.prepare value

/-- How a field fails a rule. -/
inductive Fails (v : Validator) (env : Surroundings) (data : Data) (field : String) (rule : Rule)
    (name : String) (params : List String) : Prop where
  | unmatched : name = "confirmed" ∨ name = "same" →
      (∀ sibling, v.IsSibling data field name params sibling →
        sibling.agrees (v.prepared data field) = false) →
      Fails v env data field rule name params
  | matched (sibling : Value) : name = "different" →
      v.IsSibling data field name params sibling →
      sibling.agrees (v.prepared data field) = true →
      Fails v env data field rule name params
  /-- Absent values are put to two rules only. -/
  | refused : name ∉ ["confirmed", "same", "different"] →
      (v.prepared data field).isAbsent = false ∨ name = "required" ∨ name = "filled" →
      rule.test env (v.prepared data field) params = false →
      Fails v env data field rule name params

theorem sibling?_eq_some_iff {other : String} {sibling : Value} :
    v.sibling? data other = some sibling ↔
      ∃ value, data.get? other = some value ∧ value ≠ .null ∧ sibling = v.prepare value := by
  unfold sibling?
  cases data.get? other with
  | none => simp
  | some value => cases value <;> simp [eq_comm]

theorem isSibling_iff {sibling : Value} :
    v.IsSibling data field name params sibling ↔
      (siblingName? name field params).bind (v.sibling? data) = some sibling := by
  simp only [IsSibling, Option.bind_eq_some_iff, sibling?_eq_some_iff]
  constructor
  · rintro ⟨other, value, hn, hv⟩
    exact ⟨other, hn, value, hv⟩
  · rintro ⟨other, hn, value, hv⟩
    exact ⟨other, value, hn, hv⟩

theorem isCrossField_iff :
    isCrossField name = true ↔ name ∈ ["confirmed", "same", "different"] := by
  simp [isCrossField, crossFieldNames]

private theorem testsAbsent_iff :
    testsAbsent name = true ↔ name = "required" ∨ name = "filled" := by
  simp [testsAbsent]

theorem siblingMatches_eq_false_iff {value : Value} :
    v.siblingMatches data name field value params = false ↔
      if name = "different" then
        ∃ sibling, v.IsSibling data field name params sibling ∧ sibling.agrees value = true
      else
        ∀ sibling, v.IsSibling data field name params sibling → sibling.agrees value = false := by
  simp only [siblingMatches, isSibling_iff]
  split <;> cases (siblingName? name field params).bind (v.sibling? data) <;> simp

theorem fails_of_isCrossField (hc : isCrossField name = true) {value : Value} :
    v.fails env data field value rule name params = true ↔
      v.siblingMatches data name field value params = false := by
  simp [fails, hc]

theorem fails_of_not_isCrossField (hc : isCrossField name = false) {value : Value} :
    v.fails env data field value rule name params = true ↔
      (value.isAbsent = false ∨ name = "required" ∨ name = "filled") ∧
        rule.test env value params = false := by
  rw [← testsAbsent_iff]
  simp only [fails, hc]
  cases value.isAbsent <;> cases testsAbsent name <;> simp

theorem fails_iff :
    v.fails env data field (v.prepared data field) rule name params = true ↔
      v.Fails env data field rule name params := by
  constructor
  · intro h
    cases hc : isCrossField name with
    | true =>
      have hn := isCrossField_iff.1 hc
      rw [fails_of_isCrossField hc, siblingMatches_eq_false_iff] at h
      split at h
      · next hd =>
        obtain ⟨sibling, hs, ha⟩ := h
        exact .matched sibling hd hs ha
      · next hd => exact .unmatched (by simpa [hd] using hn) h
    | false =>
      have hn : name ∉ ["confirmed", "same", "different"] := by
        rw [← isCrossField_iff, hc]
        simp
      rw [fails_of_not_isCrossField hc] at h
      exact .refused hn h.1 h.2
  · intro h
    cases h with
    | unmatched hu h =>
      have hc : isCrossField name = true :=
        isCrossField_iff.2 (by rcases hu with rfl | rfl <;> simp)
      rw [fails_of_isCrossField hc, siblingMatches_eq_false_iff, if_neg (by rintro rfl; simp at hu)]
      exact h
    | matched sibling hd hs ha =>
      have hc : isCrossField name = true := isCrossField_iff.2 (by simp [hd])
      rw [fails_of_isCrossField hc, siblingMatches_eq_false_iff, if_pos hd]
      exact ⟨sibling, hs, ha⟩
    | refused hn ha ht =>
      have hc : isCrossField name = false := by
        rw [← isCrossField_iff, Bool.not_eq_true] at hn
        exact hn
      rw [fails_of_not_isCrossField hc]
      exact ⟨ha, ht⟩

instance : Decidable (v.Fails env data field rule name params) :=
  decidable_of_iff _ fails_iff

def failure? (v : Validator) (env : Surroundings) (data : Data) (field : String)
    (listed : String × List String) : Option Failure :=
  match v.registry.get? listed.1 with
  | some rule =>
    if v.Fails env data field rule listed.1 listed.2 then some ⟨field, rule, listed.1, listed.2⟩
    else none
  | none => none

def failures (v : Validator) (env : Surroundings) (data : Data) (field : String)
    (rules : List (String × List String)) : List Failure :=
  rules.filterMap (v.failure? env data field)

/-- The failures of all entries in turn. -/
def failureLog (v : Validator) (env : Surroundings) (data : Data) (entries : List Entry) :
    List Failure :=
  entries.flatMap fun entry => v.failures env data entry.1 entry.2.listed

def wording (v : Validator) (f : Failure) : String := v.message f.field f.rule f.params

theorem failure?_eq_some_iff {listed : String × List String} {f : Failure} :
    v.failure? env data field listed = some f ↔
      ∃ rule, v.registry.get? listed.1 = some rule ∧
        v.Fails env data field rule listed.1 listed.2 ∧
        ⟨field, rule, listed.1, listed.2⟩ = f := by
  rw [failure?]
  cases v.registry.get? listed.1 with
  | none => simp
  | some rule => simp

theorem failures_cons_of_fails {listed : String × List String}
    {rules : List (String × List String)} (hg : v.registry.get? listed.1 = some rule)
    (hf : v.Fails env data field rule listed.1 listed.2) :
    v.failures env data field (listed :: rules) =
      ⟨field, rule, listed.1, listed.2⟩ :: v.failures env data field rules := by
  simp [failures, failure?, hg, hf]

theorem failures_cons_of_not_fails {listed : String × List String}
    {rules : List (String × List String)} (hg : v.registry.get? listed.1 = some rule)
    (hf : ¬v.Fails env data field rule listed.1 listed.2) :
    v.failures env data field (listed :: rules) = v.failures env data field rules := by
  simp [failures, failure?, hg, hf]

theorem mem_failures {rules : List (String × List String)} (hl : (name, params) ∈ rules)
    (hg : v.registry.get? name = some rule) (hf : v.Fails env data field rule name params) :
    ⟨field, rule, name, params⟩ ∈ v.failures env data field rules :=
  List.mem_filterMap.2 ⟨(name, params), hl, by simp [failure?, hg, hf]⟩

theorem field_of_mem_failures {rules : List (String × List String)} {f : Failure}
    (h : f ∈ v.failures env data field rules) : f.field = field := by
  obtain ⟨listed, _, hf⟩ := List.mem_filterMap.1 h
  obtain ⟨rule, _, _, rfl⟩ := failure?_eq_some_iff.1 hf
  rfl

section Congr

variable {w : Validator} (hs : v.sanitizes = w.sanitizes)
include hs

theorem prepare_congr (value : Value) : v.prepare value = w.prepare value := by
  simp only [prepare, hs]

theorem sibling?_congr : v.sibling? data = w.sibling? data := by
  funext other
  simp only [sibling?, prepare_congr hs]

theorem fails_congr (value : Value) :
    v.fails env data field value rule name params =
      w.fails env data field value rule name params := by
  simp only [fails, siblingMatches, sibling?_congr hs]

theorem Fails.congr :
    v.Fails env data field rule name params ↔ w.Fails env data field rule name params := by
  rw [← fails_iff, ← fails_iff, fails_congr hs, prepared, prepared, prepare_congr hs]

theorem failureLog_congr (hr : v.registry = w.registry) (entries : List Entry) :
    v.failureLog env data entries = w.failureLog env data entries := by
  have hf : ∀ field, v.failure? env data field = w.failure? env data field := by
    intro field
    funext listed
    simp only [failure?, hr, Fails.congr hs]
  simp only [failureLog, failures, hf]

end Congr

end Validator

end FormCheck
