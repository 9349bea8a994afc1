import FormCheck.Config

/-!
Values through JSON and back. All that JSON cannot hold is a double that is no number; whether a
value is made into JSON or written part by part, the result is the same.
-/
namespace FormCheck

/-- What an encoder makes of each part that a value can have. -/
structure Encoder (α : Type) where
  null : α
  bool : Bool → α
  int : Int → α
  float : Double → α
  text : String → α
  list : List α → α
  fields : List (String × α) → α

variable {α : Type}

def Upload.encode (e : Encoder α) (u : Upload) : α :=
  e.fields [("error", e.int u.error.toInt), ("tmp_path", e.text u.path),
    ("size", e.int u.size.toNat), ("declared_mime", e.text u.declaredType)]

namespace Encoder

def json : Encoder Json where
  null := .null
  bool := .bool
  int n := .number (.int n)
  float x := if x.isFinite then .number (.float x) else .null
  text := .string
  list := .array
  fields := .object

def compact : Encoder String where
  null := "null"
  bool b := if b then "true" else "false"
  int := toString
  float := Json.numberLayout.write
  text := Json.quote
  list := Json.bracket "[" "]"
  fields := Json.braces

end Encoder

namespace Value

mutual

def encode (e : Encoder α) : Value → α
  | null => e.null
  | bool b => e.bool b
  | int n => e.int n.toInt
  | float x => e.float x
  | text s => e.text s
  | list items => e.list (encodeAll e items)
  | upload u => u.encode e

def encodeAll (e : Encoder α) : List Value → List α
  | [] => []
  | v :: vs => v.encode e :: encodeAll e vs

end

mutual

/-- The value with null for each double that is no number. -/
def expressible : Value → Value
  | float x => if x.isFinite then float x else null
  | list items => list (expressibleAll items)
  | v => v

def expressibleAll : List Value → List Value
  | [] => []
  | v :: vs => v.expressible :: expressibleAll vs

end

end Value

private theorem Json.int64?_toInt (n : Int64) : Json.int64? (.number (.int n.toInt)) = some n := by
  have hlow := n.le_toInt
  have hhigh := n.toInt_lt
  rw [Json.int64?, if_pos ⟨by omega, by omega⟩, Int64.ofInt_toInt]

private theorem Json.uint64?_toNat (n : UInt64) :
    Json.uint64? (.number (.int n.toNat)) = some n := by
  have hhigh := n.toNat_lt
  rw [Json.uint64?, if_pos ⟨by omega, by omega⟩, Int.toNat_natCast, UInt64.ofNat_toNat]

private theorem Json.writeItems_eq_map (items : List Json) :
    Json.writeItems items = items.map Json.write := by
  induction items with
  | nil => rfl
  | cons j js ih => rw [Json.writeItems, ih, List.map_cons]

namespace Upload

theorem ofJson?_toJson (u : Upload) : Upload.ofJson? u.toJson = some u := by
  simp [toJson, ofJson?, Json.onlyMember?, ofParts?, Json.int64?_toInt, Json.uint64?_toNat,
    Json.string?]

end Upload

namespace Value

mutual

private theorem ofJson_toJson_eq : ∀ v : Value, ofJson v.toJson = .ok v.expressible
  | .int n => by
    rw [toJson, ofJson, ofNumber, Json.int64?_toInt]
    rfl
  | .float x => by
    rw [toJson, expressible]
    split <;> rfl
  | .list items => by
    rw [toJson, ofJson, ofJsonItems_toJsonItems items]
    rfl
  | .upload u => by
    rw [toJson, Upload.toJson, ofJson, ← Upload.toJson, u.ofJson?_toJson]
    rfl
  | .null | .bool _ | .text _ => rfl

private theorem ofJsonItems_toJsonItems : ∀ items : List Value,
    ofJsonItems (toJsonItems items) = .ok (expressibleAll items)
  | [] => rfl
  | v :: vs => by
    rw [toJsonItems, ofJsonItems, ofJson_toJson_eq v, ofJsonItems_toJsonItems vs]
    rfl

end

/-- What a function must do with each kind of value to be the work of an encoder. -/
structure Follows (e : Encoder α) (f : Value → α) : Prop where
  null : f .null = e.null
  bool : ∀ b, f (.bool b) = e.bool b
  int : ∀ n : Int64, f (.int n) = e.int n.toInt
  float : ∀ x, f (.float x) = e.float x
  text : ∀ s, f (.text s) = e.text s
  list : ∀ items : List Value, f (.list items) = e.list (items.map f)
  upload : ∀ u : Upload, f (.upload u) = u.encode e

namespace Follows

variable {e : Encoder α} {f : Value → α}

mutual

private theorem eq_encode (h : Follows e f) : ∀ v : Value, f v = v.encode e
  | .null => h.null
  | .bool b => h.bool b
  | .int n => h.int n
  | .float x => h.float x
  | .text s => h.text s
  | .list items => by rw [h.list, h.map_eq_encodeAll items, encode]
  | .upload u => h.upload u

private theorem map_eq_encodeAll (h : Follows e f) : ∀ items : List Value,
    items.map f = encodeAll e items
  | [] => rfl
  | v :: vs => by rw [List.map_cons, h.eq_encode v, h.map_eq_encodeAll vs, encodeAll]

end

end Follows

private theorem toJsonItems_eq_map (items : List Value) : toJsonItems items = items.map toJson := by
  induction items with
  | nil => rfl
  | cons v vs ih => rw [toJsonItems, ih, List.map_cons]

private theorem writeItems_eq_map (items : List Value) : writeItems items = items.map write := by
  induction items with
  | nil => rfl
  | cons v vs ih => rw [writeItems, ih, List.map_cons]

private theorem follows_toJson : Follows .json toJson where
  null := rfl
  bool _ := rfl
  int _ := rfl
  float _ := rfl
  text _ := rfl
  list items := by rw [toJson, toJsonItems_eq_map, Encoder.json]
  upload _ := rfl

private theorem follows_write : Follows .compact write where
  null := rfl
  bool _ := rfl
  int _ := rfl
  float _ := rfl
  text _ := rfl
  list items := by rw [write, writeItems_eq_map, Encoder.compact]
  upload _ := rfl

private theorem follows_write_toJson : Follows .compact fun v => v.toJson.write where
  null := rfl
  bool _ := rfl
  int _ := rfl
  float x := by
    -- JSON writes null, and so does the layout of numbers for what is none.
    rw [toJson, Encoder.compact]
    match x with
    | .finite _ _ | .nan | .infinite true | .infinite false => rfl
  text _ := rfl
  list items := by
    rw [toJson, toJsonItems_eq_map, Json.write, Json.writeItems_eq_map, List.map_map,
      Encoder.compact]
    rfl
  upload _ := rfl

/-- A value comes back from its JSON with null for the doubles that are no number and all else as it
was. Written part by part it is the same JSON, and its text is the text of that. -/
theorem json_keeps_value (v : Value) :
    ofJson v.toJson = .ok v.expressible ∧ v.encode .json = v.toJson ∧
      v.encode .compact = v.write ∧ v.write = v.toJson.write :=
  ⟨v.ofJson_toJson_eq, (follows_toJson.eq_encode v).symm, (follows_write.eq_encode v).symm,
    (follows_write.eq_encode v).trans (follows_write_toJson.eq_encode v).symm⟩

end Value

end FormCheck
