import FormCheck.Proofs.OrderedMap
import FormCheck.Value.Json

/-!
Two ways from a JSON text to a value. One tries the kinds of values in turn on what was read, the
other joins repeated keys and goes by the kind of JSON. Where no object repeats a key, they accept
the same texts and give the same values.
-/
namespace FormCheck

namespace Json

mutual

def keysDistinct : Json → Bool
  | array items => allKeysDistinct items
  | object members => decide (Assoc.keys members).Nodup && memberKeysDistinct members
  | _ => true

def allKeysDistinct : List Json → Bool
  | [] => true
  | j :: js => j.keysDistinct && allKeysDistinct js

def memberKeysDistinct : List (String × Json) → Bool
  | [] => true
  | (_, j) :: ms => j.keysDistinct && memberKeysDistinct ms

end

def isNull : Json → Bool
  | null => true
  | _ => false

def double? : Json → Option Double
  | number (.int n) => some (.ofInt n)
  | number (.float x) => some x
  | _ => none

def items? : Json → Option (List Json)
  | array items => some items
  | _ => none

private theorem mergedMembers_eq_map (members : List (String × Json)) :
    mergedMembers members = members.map fun m => (m.1, m.2.merged) := by
  induction members with
  | nil => rfl
  | cons m ms ih => rw [mergedMembers, ih, List.map_cons]

private theorem foldl_put_eq_entries (m : OrderedMap Json) (members : List (String × Json)) :
    members.foldl (fun es e => Assoc.put e.1 e.2 es) m.entries =
      (m.insertAll members).entries := by
  induction members generalizing m with
  | nil => rfl
  | cons e members ih => exact ih (m.insert e.1 e.2)

private theorem merged_object {members : List (String × Json)} (h : (Assoc.keys members).Nodup) :
    (object members).merged = object (members.map fun m => (m.1, m.2.merged)) := by
  have hk : Assoc.keys (members.map fun m => (m.1, m.2.merged)) = Assoc.keys members := by
    simp [Assoc.keys]
  have he := @OrderedMap.entries_insertAll Json .empty (members.map fun m => (m.1, m.2.merged))
    (by rw [← hk] at h; exact h)
  rw [merged, mergedMembers_eq_map]
  exact congrArg object ((foldl_put_eq_entries .empty _).trans he)

theorem allKeysDistinct_iff {items : List Json} :
    allKeysDistinct items = true ↔ ∀ j ∈ items, j.keysDistinct = true := by
  induction items with
  | nil => simp [allKeysDistinct]
  | cons j js ih => rw [allKeysDistinct, Bool.and_eq_true, ih, List.forall_mem_cons]

theorem memberKeysDistinct_iff {members : List (String × Json)} :
    memberKeysDistinct members = true ↔ ∀ m ∈ members, m.2.keysDistinct = true := by
  induction members with
  | nil => simp [memberKeysDistinct]
  | cons m ms ih => rw [memberKeysDistinct, Bool.and_eq_true, ih, List.forall_mem_cons]

mutual

theorem merged_of_keysDistinct : ∀ j : Json, j.keysDistinct = true → j.merged = j
  | .null, _ | .bool _, _ | .string _, _ | .number _, _ => rfl
  | .array items, h => by rw [merged, mergedItems_of_keysDistinct items h]
  | .object members, h => by
    obtain ⟨hkeys, hmembers⟩ := Bool.and_eq_true_iff.1 h
    rw [merged_object (of_decide_eq_true hkeys), ← mergedMembers_eq_map,
      mergedMembers_of_keysDistinct members hmembers]

private theorem mergedItems_of_keysDistinct : ∀ items : List Json, allKeysDistinct items = true →
    mergedItems items = items
  | [], _ => rfl
  | j :: js, h => by
    obtain ⟨hj, hjs⟩ := Bool.and_eq_true_iff.1 h
    rw [mergedItems, merged_of_keysDistinct j hj, mergedItems_of_keysDistinct js hjs]

private theorem mergedMembers_of_keysDistinct : ∀ members : List (String × Json),
    memberKeysDistinct members = true → mergedMembers members = members
  | [], _ => rfl
  | (key, j) :: ms, h => by
    obtain ⟨hj, hms⟩ := Bool.and_eq_true_iff.1 h
    rw [mergedMembers, merged_of_keysDistinct j hj, mergedMembers_of_keysDistinct ms hms]

end

@[simp] theorem int64?_merged (j : Json) : j.merged.int64? = j.int64? := by
  cases j <;> rfl

@[simp] theorem uint64?_merged (j : Json) : j.merged.uint64? = j.uint64? := by
  cases j <;> rfl

@[simp] theorem string?_merged (j : Json) : j.merged.string? = j.string? := by
  cases j <;> rfl

private theorem onlyMember?_map (key : String) (f : Json → Json) (members : List (String × Json)) :
    onlyMember? key (members.map fun m => (m.1, f m.2)) =
      (onlyMember? key members).map (Option.map f) := by
  have hf : (members.map fun m => (m.1, f m.2)).filter (fun m => m.1 == key) =
      (members.filter fun m => m.1 == key).map fun m => (m.1, f m.2) := List.filter_map
  rw [onlyMember?, hf, onlyMember?]
  generalize members.filter (fun m => m.1 == key) = found
  match found with
  | [] | [_] | _ :: _ :: _ => rfl

end Json

namespace Upload

private theorem ofParts?_merged (error path size : Json) (declared : Option Json) :
    ofParts? error.merged path.merged size.merged (declared.map Json.merged) =
      ofParts? error path size declared := by
  cases declared <;> simp [ofParts?]

private theorem ofJson?_map_merged (members : List (String × Json)) :
    ofJson? (.object (members.map fun m => (m.1, m.2.merged))) = ofJson? (.object members) := by
  simp only [ofJson?, Json.onlyMember?_map, Option.bind_eq_bind, Option.bind_map,
    Function.comp_def, ofParts?_merged]

end Upload

namespace Value

/-- The kinds of values in the order in which they are tried, each with the JSON it takes. -/
def readers : List (Json → Option Value) :=
  [fun j => if j.isNull then some null else none, fun j => j.bool?.map bool,
    fun j => j.int64?.map int, fun j => j.double?.map float, fun j => j.string?.map text,
    fun j => (j.items?.bind decodeItems?).map list, fun j => (Upload.ofJson? j).map upload]

private theorem decode?_number (n : Json.Number) : decode? (.number n) = some (ofNumber n) := by
  cases n with
  | float x => rfl
  | int n => cases hn : Json.int64? (.number (.int n)) <;> simp [decode?, ofNumber, hn]

private theorem decode?_eq_findSome? (j : Json) :
    decode? j = readers.findSome? fun read => read j := by
  match j with
  | .null | .bool _ | .string _ | .number (.float _) => rfl
  | .number (.int n) =>
    rw [decode?_number, ofNumber]
    simp only [readers, List.findSome?_cons, Json.isNull, Json.bool?, Json.double?]
    cases Json.int64? (.number (.int n)) <;> rfl
  | .array items =>
    rw [decode?]
    simp only [readers, List.findSome?_cons, Json.isNull, Json.bool?, Json.double?, Json.int64?,
      Json.string?, Json.items?, Option.bind_some]
    cases decodeItems? items with
    | none => cases Upload.ofJson? (.array items) <;> rfl
    | some vs => rfl
  | .object members =>
    rw [decode?]
    simp only [readers, List.findSome?_cons, Json.isNull, Json.bool?, Json.double?, Json.int64?,
      Json.string?, Json.items?]
    cases Upload.ofJson? (.object members) <;> rfl

private theorem exists_decode?_of_int64? {j : Json} {n : Int64} (h : j.int64? = some n) :
    ∃ v, decode? j = some v := by
  match j with
  | .number n => exact ⟨_, decode?_number n⟩

private theorem exists_decode?_of_uint64? {j : Json} {n : UInt64} (h : j.uint64? = some n) :
    ∃ v, decode? j = some v := by
  match j with
  | .number n => exact ⟨_, decode?_number n⟩

private theorem exists_decode?_of_string? {j : Json} {s : String} (h : j.string? = some s) :
    ∃ v, decode? j = some v := by
  match j with
  | .string s => exact ⟨_, rfl⟩

private theorem exists_decodeItems?_of_upload {items : List Json} {u : Upload}
    (h : Upload.ofJson? (.array items) = some u) : ∃ vs, decodeItems? items = some vs := by
  have hparts : ∀ {error path size : Json} {declared : Option Json},
      Upload.ofParts? error path size declared = some u →
      ∃ a b c, decode? error = some a ∧ decode? path = some b ∧ decode? size = some c ∧
        ∀ j, declared = some j → ∃ d, decode? j = some d := by
    intro error path size declared hu
    simp only [Upload.ofParts?, Option.bind_eq_bind, Option.bind_eq_some_iff] at hu
    obtain ⟨_, he, _, hp, _, hs, _, hd, -⟩ := hu
    obtain ⟨a, ha⟩ := exists_decode?_of_int64? he
    obtain ⟨b, hb⟩ := exists_decode?_of_string? hp
    obtain ⟨c, hc⟩ := exists_decode?_of_uint64? hs
    refine ⟨a, b, c, ha, hb, hc, ?_⟩
    rintro j rfl
    exact exists_decode?_of_string? hd
  match items with
  | [error, path, size] =>
    obtain ⟨a, b, c, ha, hb, hc, -⟩ := hparts h
    exact ⟨[a, b, c], by simp [decodeItems?, ha, hb, hc]⟩
  | [error, path, size, declared] =>
    obtain ⟨a, b, c, ha, hb, hc, hd⟩ := hparts h
    obtain ⟨d, hd⟩ := hd declared rfl
    exact ⟨[a, b, c, d], by simp [decodeItems?, ha, hb, hc, hd]⟩

mutual

private theorem decode?_eq_ofJson_merged : ∀ j : Json, j.keysDistinct = true →
    decode? j = (ofJson j.merged).toOption
  | .null, _ | .bool _, _ | .string _, _ => rfl
  | .number n, _ => decode?_number n
  | .array items, h => by
    have hi := decodeItems?_eq_ofJsonItems_merged items h
    rw [decode?, Json.merged, ofJson, hi]
    cases ho : ofJsonItems (Json.mergedItems items) with
    | ok vs => rfl
    | error m =>
      -- An item has no value, so the array cannot describe an upload either.
      cases hu : Upload.ofJson? (.array items) with
      | none => rfl
      | some u =>
        obtain ⟨vs, hvs⟩ := exists_decodeItems?_of_upload hu
        rw [hi, ho] at hvs
        cases hvs
  | .object members, h => by
    have hn : (Assoc.keys members).Nodup := of_decide_eq_true (Bool.and_eq_true_iff.1 h).1
    rw [decode?, Json.merged_object hn, ofJson, Upload.ofJson?_map_merged]
    cases Upload.ofJson? (.object members) <;> rfl

private theorem decodeItems?_eq_ofJsonItems_merged : ∀ items : List Json,
    Json.allKeysDistinct items = true →
    decodeItems? items = (ofJsonItems (Json.mergedItems items)).toOption
  | [], _ => rfl
  | j :: js, h => by
    obtain ⟨hj, hjs⟩ := Bool.and_eq_true_iff.1 h
    rw [decodeItems?, Json.mergedItems, ofJsonItems, decode?_eq_ofJson_merged j hj,
      decodeItems?_eq_ofJsonItems_merged js hjs]
    cases ofJson j.merged with
    | error m => rfl
    | ok v => cases ofJsonItems (Json.mergedItems js) <;> rfl

end

/-- The first kind of value that fits what was read is the value of the JSON with its repeated keys
joined, if no object repeats a key; and if no kind fits, that JSON has no value. -/
theorem decoders_agree (text : String)
    (h : ∀ j, Json.readRepeated? text = some j → j.keysDistinct = true) :
    (∀ j, decode? j = readers.findSome? fun read => read j) ∧
      (Json.readRepeated? text).bind decode? =
        (Json.read? text).bind fun j => (ofJson j).toOption := by
  refine ⟨decode?_eq_findSome?, ?_⟩
  have hr : Json.read? text = (Json.readRepeated? text).map Json.merged := rfl
  rw [hr, Option.bind_map]
  cases hj : Json.readRepeated? text with
  | none => rfl
  | some j => exact decode?_eq_ofJson_merged j (h j hj)

/-- A whole number beyond 64 bits, an array in the shape of an upload, and an upload with a member
more, out of order and without a type. -/
theorem decoders_agree_on_nested_uploads :
    let text := "[9223372036854775808, [[0, \"p\", 10], " ++
      "\x7b\"size\": 1, \"tmp_path\": \"p\", \"x\": 0, \"error\": 4\x7d]]"
    let value : Value := .list [.float (.ofInt 9223372036854775808),
      .list [.list [.int 0, .text "p", .int 10], .upload ⟨4, "p", 1, ""⟩]]
    (∀ j, Json.readRepeated? text = some j → j.keysDistinct = true) ∧
      ∃ v, (Json.readRepeated? text).bind decode? = some v ∧
        (Json.read? text).bind (fun j => (ofJson j).toOption) = some v ∧ v.agrees value = true := by
  intro text value
  have hall : (Json.readRepeated? text).all Json.keysDistinct = true := by decide +kernel
  have hdistinct := (Option.all_eq_true _ _).1 hall
  have hvalue : ((Json.readRepeated? text).bind decode?).any (·.agrees value) = true := by
    decide +kernel
  obtain ⟨v, hv, ha⟩ := (Option.any_eq_true _ _).1 hvalue
  exact ⟨hdistinct, v, hv, (decoders_agree text hdistinct).2 ▸ hv, ha⟩

end Value

end FormCheck
