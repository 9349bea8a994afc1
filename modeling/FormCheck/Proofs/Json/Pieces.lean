import FormCheck.Messages.Json
import FormCheck.Rules.Json
import FormCheck.Proofs.Json.RoundTrip
import FormCheck.Proofs.Messages.TableFiles
import FormCheck.Proofs.Value.Json

/-!
Pieces of a configuration through JSON. The rules of a field, message overrides and uploads come back
from their JSON as they were, with their entries in order and each entry in its form, whatever the
texts in them look like.
-/
namespace FormCheck

variable {α : Type}

namespace Json

/-- What is made into JSON comes back: from the value, from its text, and from its text with repeated
keys joined. -/
structure ComesBack (encode : α → Json) (decode? : Json → Option α) (x : α) : Prop where
  value : decode? (encode x) = some x
  text : (readRepeated? (encode x).write).bind decode? = some x
  merged : (read? (encode x).write).bind decode? = some x

private theorem ComesBack.of_isExact {encode : α → Json} {decode? : Json → Option α} {x : α}
    (hvalue : decode? (encode x) = some x) (hexact : (encode x).isExact maxDepth = true)
    (hkeys : (encode x).keysDistinct = true) : ComesBack encode decode? x where
  value := hvalue
  text := by rw [readRepeated?_write hexact, Option.bind_some, hvalue]
  merged := by rw [read?_write hexact hkeys, Option.bind_some, hvalue]

def texts (parts : List String) : Json := array (parts.map string)

private theorem isExact_texts {depth : Nat} (hdepth : 0 < depth) (parts : List String) :
    (texts parts).isExact depth = true :=
  isExact_array hdepth (List.forall_mem_map.2 fun _ _ => rfl)

private theorem keysDistinct_texts (parts : List String) : (texts parts).keysDistinct = true :=
  allKeysDistinct_iff.2 (List.forall_mem_map.2 fun _ _ => rfl)

def ofMap (f : α → Json) (m : OrderedMap α) : Json :=
  object (m.entries.map fun e => (e.1, f e.2))

private theorem isExact_ofMap {depth : Nat} {f : α → Json} (hdepth : 0 < depth)
    (h : ∀ x, (f x).isExact (depth - 1) = true) (m : OrderedMap α) :
    (ofMap f m).isExact depth = true :=
  isExact_object hdepth (List.forall_mem_map.2 fun e _ => h e.2)

private theorem keysDistinct_ofMap {f : α → Json} (h : ∀ x, (f x).keysDistinct = true)
    (m : OrderedMap α) : (ofMap f m).keysDistinct = true := by
  have hkeys : Assoc.keys (m.entries.map fun e => (e.1, f e.2)) = Assoc.keys m.entries := by
    simp [Assoc.keys]
  refine Bool.and_eq_true_iff.2 ⟨decide_eq_true ?_, ?_⟩
  · rw [hkeys]
    exact m.nodup
  · exact memberKeysDistinct_iff.2 (List.forall_mem_map.2 fun e _ => h e.2)

end Json

namespace RuleSpec

private theorem toJson_eq_ofMap (spec : RuleSpec) :
    spec.toJson = .ofMap Json.texts spec.rules := rfl

private theorem strings?_map (params : List String) :
    strings? (params.map .string) = some params := by
  induction params with
  | nil => rfl
  | cons s params ih => rw [List.map_cons, strings?, ih, Option.map_some]

private theorem decodeMembers?_map (rules : List (String × List String)) :
    decodeMembers? (rules.map fun e => (e.1, .texts e.2)) = some rules := by
  induction rules with
  | nil => rfl
  | cons e rules ih =>
    rw [List.map_cons, Json.texts, decodeMembers?, strings?_map, ih]
    rfl

private theorem decode?_toJson (spec : RuleSpec) : decode? spec.toJson = some spec := by
  rw [toJson_eq_ofMap, Json.ofMap, decode?, decodeMembers?_map, Option.map_some, ofList,
    OrderedMap.ofList_entries]

private theorem isExact_toJson (spec : RuleSpec) : spec.toJson.isExact Json.maxDepth = true :=
  Json.isExact_ofMap (by decide) (Json.isExact_texts (by decide)) spec.rules

private theorem keysDistinct_toJson (spec : RuleSpec) : spec.toJson.keysDistinct = true :=
  Json.keysDistinct_ofMap Json.keysDistinct_texts spec.rules

private theorem comesBack (spec : RuleSpec) : Json.ComesBack toJson decode? spec :=
  .of_isExact spec.decode?_toJson spec.isExact_toJson spec.keysDistinct_toJson

end RuleSpec

namespace FieldRules

private theorem decode?_toJson (rules : FieldRules) : decode? rules.toJson = some rules := by
  cases rules with
  | text s => rfl
  | spec spec => exact congrArg (Option.map FieldRules.spec) spec.decode?_toJson

private theorem comesBack (rules : FieldRules) : Json.ComesBack toJson decode? rules := by
  cases rules with
  | text s => exact .of_isExact rfl rfl rfl
  | spec spec => exact .of_isExact (decode?_toJson _) spec.isExact_toJson spec.keysDistinct_toJson

end FieldRules

namespace MessageEntry

private theorem decode?_toJson (entry : MessageEntry) : decode? entry.toJson = some entry := by
  cases entry with
  | template s => rfl
  | byRule templates =>
    rw [toJson, decode?, LocaleTable.stringMembers?_eq_some_iff.2 rfl, Option.map_some,
      OrderedMap.ofList_entries]

private theorem isExact_toJson (entry : MessageEntry) {depth : Nat} (hdepth : 0 < depth) :
    entry.toJson.isExact depth = true := by
  cases entry with
  | template s => rfl
  | byRule templates => exact Json.isExact_ofMap (f := .string) hdepth (fun _ => rfl) templates

private theorem keysDistinct_toJson (entry : MessageEntry) : entry.toJson.keysDistinct = true := by
  cases entry with
  | template s => rfl
  | byRule templates => exact Json.keysDistinct_ofMap (f := .string) (fun _ => rfl) templates

end MessageEntry

namespace Overrides

private theorem decodeMembers?_map (entries : List (String × MessageEntry)) :
    decodeMembers? (entries.map fun (key, entry) => (key, entry.toJson)) = some entries := by
  induction entries with
  | nil => rfl
  | cons e entries ih =>
    rw [List.map_cons, decodeMembers?, e.2.decode?_toJson, ih]
    rfl

private theorem decode?_toJson (o : Overrides) : decode? o.toJson = some o := by
  rw [toJson, decode?, decodeMembers?_map, Option.map_some, OrderedMap.ofList_entries]

private theorem comesBack (o : Overrides) : Json.ComesBack toJson decode? o :=
  .of_isExact o.decode?_toJson
    (Json.isExact_ofMap (by decide) (fun entry => entry.isExact_toJson (by decide)) o.entries)
    (Json.keysDistinct_ofMap MessageEntry.keysDistinct_toJson o.entries)

end Overrides

namespace Upload

private theorem isExact_toJson (u : Upload) : u.toJson.isExact Json.maxDepth = true := by
  have herror := u.error.le_toInt
  have herror' := u.error.toInt_lt
  have hsize := u.size.toNat_lt
  refine Json.isExact_object (by decide) ?_
  simp only [List.forall_mem_cons]
  refine ⟨?_, rfl, ?_, rfl, fun _ h => nomatch h⟩
  · exact decide_eq_true ⟨by omega, by omega⟩
  · exact decide_eq_true ⟨by omega, by omega⟩

private theorem keysDistinct_toJson (u : Upload) : u.toJson.keysDistinct = true := by
  have hkeys : ["error", "tmp_path", "size", "declared_mime"].Nodup := by decide
  unfold toJson Json.keysDistinct
  exact Bool.and_eq_true_iff.2 ⟨decide_eq_true hkeys, rfl⟩

private theorem comesBack (u : Upload) : Json.ComesBack toJson ofJson? u :=
  .of_isExact u.ofJson?_toJson u.isExact_toJson u.keysDistinct_toJson

theorem readFields?_write (u : Upload) :
    (Json.Document.read? u.toJson.write).bind (·.toFields? fieldNames) = some u.toJson :=
  Json.readFields?_write u.isExact_toJson (by simp [fieldNames])

end Upload

/-- Every piece comes back as it was: the rules of a field with their names and parameters in order,
as text or read beforehand, whatever that text looks like; message overrides with their entries in
order, each a template or a table in its own order; and uploads, also where only their fields are
read. -/
theorem pieces_come_back :
    (∀ spec : RuleSpec, Json.ComesBack RuleSpec.toJson RuleSpec.decode? spec) ∧
    (∀ rules : FieldRules, Json.ComesBack FieldRules.toJson FieldRules.decode? rules) ∧
    (∀ overrides : Overrides, Json.ComesBack Overrides.toJson Overrides.decode? overrides) ∧
    (∀ u : Upload, Json.ComesBack Upload.toJson Upload.ofJson? u ∧
      ((Json.Document.read? u.toJson.write).bind (·.toFields? Upload.fieldNames)).bind
        Upload.ofJson? = some u) := by
  refine ⟨RuleSpec.comesBack, FieldRules.comesBack, Overrides.comesBack, fun u =>
    ⟨u.comesBack, ?_⟩⟩
  rw [u.readFields?_write, Option.bind_some, u.ofJson?_toJson]

end FormCheck
