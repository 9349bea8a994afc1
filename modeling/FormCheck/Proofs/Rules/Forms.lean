import FormCheck.Config
import FormCheck.Proofs.Rules.Written
import FormCheck.Proofs.Run.Failures

/-!
The forms in which JSON gives rules: their text, an array of the texts of single rules, and an
object of parameters by name. All forms of writable rules are read as the same rules in the same
order, so a run does not tell them apart.
-/
namespace FormCheck

namespace RuleSpec

variable {rule : String × List String} {rules : List (String × List String)} {spec : RuleSpec}

private theorem push_renderRule (h : IsWritableRule rule) :
    spec.push (String.ofList (renderRule rule)) = .ok (spec.insert rule.1 rule.2) := by
  rw [push, String.toList_ofList, isBlankSegment_of_readSegment? h.readSegment?_renderRule,
    h.readSegment?_renderRule]
  rfl

private theorem pushAll_map_renderRule (h : ∀ rule ∈ rules, IsWritableRule rule) (field : String) :
    pushAll field spec (rules.map fun rule => .string (String.ofList (renderRule rule))) =
      .ok ⟨spec.rules.insertAll rules⟩ := by
  induction rules generalizing spec with
  | nil => rfl
  | cons rule rules ih =>
    obtain ⟨hrule, hrules⟩ := List.forall_mem_cons.1 h
    rw [List.map_cons, pushAll, push_renderRule hrule]
    exact ih hrules

private theorem mapM_param_map_string (field name : String) (params : List String) :
    (params.map Json.string).mapM (param field name) = .ok params := by
  induction params with
  | nil => rfl
  | cons p params ih =>
    rw [List.map_cons, List.mapM_cons, ih]
    rfl

private theorem insertMembers_map (field : String) (rules : List (String × List String)) :
    insertMembers field spec (rules.map fun (name, params) => (name, .array (params.map .string))) =
      .ok ⟨spec.rules.insertAll rules⟩ := by
  induction rules generalizing spec with
  | nil => rfl
  | cons rule rules ih =>
    have hp : params field rule.1 (.array (rule.2.map .string)) = .ok rule.2 :=
      mapM_param_map_string field rule.1 rule.2
    rw [List.map_cons, insertMembers, hp]
    exact ih

end RuleSpec

/-- A form in which JSON gives the rules of a field. -/
inductive RuleForm where
  | text
  | segments
  | object

namespace RuleForm

open RuleSpec

def toJson (spec : RuleSpec) : RuleForm → Json
  | text => .string spec.render
  | segments => .array (spec.toList.map fun rule => .string (String.ofList (renderRule rule)))
  | object => spec.toJson

def read (spec : RuleSpec) : RuleForm → FieldRules
  | text => .text spec.render
  | segments | object => .spec spec

variable {spec : RuleSpec}

private theorem ofJson_toJson (h : spec.IsWritable) (form : RuleForm) (field : String) :
    FieldRules.ofJson field (form.toJson spec) = .ok (form.read spec) := by
  have hspec : (⟨RuleSpec.empty.rules.insertAll spec.toList⟩ : RuleSpec) = spec :=
    spec.ofList_toList
  cases form with
  | text => rfl
  | segments =>
    rw [toJson, FieldRules.ofJson, pushAll_map_renderRule h, hspec]
    rfl
  | object =>
    rw [toJson, RuleSpec.toJson, FieldRules.ofJson, insertMembers_map, hspec]
    rfl

private theorem toSpec_read (h : spec.IsWritable) (form : RuleForm) :
    (form.read spec).toSpec = .ok spec := by
  cases form with
  | text => exact parse_render h
  | segments => rfl
  | object => rfl

end RuleForm

def rulesJson (form : String → RuleForm) (fields : OrderedMap RuleSpec) : Json :=
  .object (fields.entries.map fun (field, spec) => (field, (form field).toJson spec))

def rulesRead (form : String → RuleForm) (fields : OrderedMap RuleSpec) : OrderedMap FieldRules :=
  fields.map fun field spec => (form field).read spec

variable {fields : OrderedMap RuleSpec}

private theorem ruleMembers_map {members : List (String × RuleSpec)} (form : String → RuleForm)
    (h : ∀ m ∈ members, m.2.IsWritable) :
    ruleMembers (members.map fun (field, spec) => (field, (form field).toJson spec)) =
      .ok (members.map fun (field, spec) => (field, (form field).read spec)) := by
  induction members with
  | nil => rfl
  | cons m members ih =>
    obtain ⟨hm, hmembers⟩ := List.forall_mem_cons.1 h
    rw [List.map_cons, ruleMembers, (form m.1).ofJson_toJson hm, ih hmembers]
    rfl

private theorem rulesOfJson_rulesJson (form : String → RuleForm)
    (h : ∀ e ∈ fields.entries, e.2.IsWritable) :
    rulesOfJson (rulesJson form fields) = .ok (rulesRead form fields) := by
  rw [rulesJson, rulesOfJson, ruleMembers_map form h]
  exact congrArg Except.ok (OrderedMap.ofList_entries (rulesRead form fields))

namespace Validator

variable {v : Validator} {env : Surroundings} {entries entries' : List Entry}

def resolved (entry : Entry) : String × Except Mistake RuleSpec := (entry.1, entry.2.toSpec)

private theorem runEntry_congr {entry entry' : Entry} (h : resolved entry = resolved entry')
    (data : Data)
    (report : Report) : v.runEntry env data report entry = v.runEntry env data report entry' := by
  obtain ⟨hf, hs⟩ := Prod.mk.inj h
  rw [runEntry, runEntry, hf, hs]

private theorem runEntries_congr (h : entries.map resolved = entries'.map resolved) (data : Data)
    (report : Report) :
    v.runEntries env data report entries = v.runEntries env data report entries' := by
  induction entries generalizing entries' report with
  | nil =>
    cases List.map_eq_nil_iff.1 h.symm
    rfl
  | cons entry entries ih =>
    cases entries' with
    | nil => cases h
    | cons entry' entries' =>
      obtain ⟨he, hes⟩ := List.cons.inj h
      rw [runEntries, runEntries, runEntry_congr he]
      simp only [ih hes]

private theorem validate_congr_resolved (h : entries.map resolved = entries'.map resolved)
    (data : Data) : v.validate env data entries = v.validate env data entries' := by
  have hl : entries.length = entries'.length := by simpa using congrArg List.length h
  rw [validate, validate, runEntries_congr h, hl]

private theorem validateJson_congr {data rules rules' : Json} {read read' : OrderedMap FieldRules}
    (hr : rulesOfJson rules = .ok read) (hr' : rulesOfJson rules' = .ok read')
    (h : read.entries.map resolved = read'.entries.map resolved) :
    v.validateJson env data rules = v.validateJson env data rules' := by
  rw [validateJson, validateJson, hr, hr']
  cases Data.ofJson data with
  | error e => rfl
  | ok data => exact validate_congr_resolved h data

private theorem map_resolved_rulesRead (form : String → RuleForm)
    (h : ∀ e ∈ fields.entries, e.2.IsWritable) :
    (rulesRead form fields).entries.map resolved = fields.entries.map fun e => (e.1, .ok e.2) := by
  rw [rulesRead, OrderedMap.map, List.map_map]
  apply List.map_congr_left
  intro e he
  exact congrArg (Prod.mk e.1) ((form e.1).toSpec_read (h e he))

/-- Whatever forms JSON gives them in, writable rules are read as the same rules in their order, and
runs over them are the same. -/
theorem rule_forms_agree (v : Validator) (env : Surroundings) (data : Json)
    (h : ∀ e ∈ fields.entries, e.2.IsWritable) :
    (∀ form, ∃ rules, rulesOfJson (rulesJson form fields) = .ok rules ∧
      rules.entries.map (fun e => (e.1, e.2.toSpec)) = fields.entries.map fun e => (e.1, .ok e.2)) ∧
    ∀ form form', v.validateJson env data (rulesJson form fields) =
      v.validateJson env data (rulesJson form' fields) := by
  constructor
  · intro form
    exact ⟨_, rulesOfJson_rulesJson form h, map_resolved_rulesRead form h⟩
  · intro form form'
    apply validateJson_congr (rulesOfJson_rulesJson form h) (rulesOfJson_rulesJson form' h)
    rw [map_resolved_rulesRead form h, map_resolved_rulesRead form' h]

theorem rule_forms_of_two_fields :
    let fields : OrderedMap RuleSpec := .ofList
      [("a", .ofList [("required", []), ("in", ["", "x:y"])]), ("b", .ofList [("min", ["3"])])]
    let form : String → RuleForm := fun field => if field = "a" then .text else .object
    let form' : String → RuleForm := fun field => if field = "a" then .segments else .text
    let rules : Json := .object [("a", .string "required|in:,x:y"),
      ("b", .object [("min", .array [.string "3"])])]
    let rules' : Json := .object [("a", .array [.string "required", .string "in:,x:y"]),
      ("b", .string "min:3")]
    (∀ e ∈ fields.entries, e.2.IsWritable) ∧
      rulesJson form fields = rules ∧ rulesJson form' fields = rules' ∧
      (∃ read, rulesOfJson rules = .ok read ∧
        read.entries.map (fun e => (e.1, e.2.toSpec)) = fields.entries.map fun e => (e.1, .ok e.2)) ∧
      ∀ data, new.validateJson .bare data rules = new.validateJson .bare data rules' := by
  intro fields form form' rules rules'
  have hw : ∀ e ∈ fields.entries, e.2.IsWritable := by decide
  have hrules : rulesJson form fields = rules := by rfl
  have hrules' : rulesJson form' fields = rules' := by rfl
  refine ⟨hw, hrules, hrules', ?_, fun data => ?_⟩
  · rw [← hrules]
    exact (rule_forms_agree new .bare .null hw).1 form
  · rw [← hrules, ← hrules']
    exact (rule_forms_agree new .bare data hw).2 form form'

end Validator

end FormCheck
