import FormCheck.Error
import FormCheck.Value

/-!
Values as JSON and back. `ofJson` takes a value from JSON; `decode?` tries the kinds of values in
order on JSON whose objects may repeat keys; `toJson` and `write` give its JSON and its text.
-/
namespace FormCheck

def Json.int64? : Json → Option Int64
  | .number (.int n) =>
    if -9223372036854775808 ≤ n ∧ n ≤ 9223372036854775807 then some (Int64.ofInt n) else none
  | _ => none

def Json.uint64? : Json → Option UInt64
  | .number (.int n) =>
    if 0 ≤ n ∧ n ≤ 18446744073709551615 then some (UInt64.ofNat n.toNat) else none
  | _ => none

def Json.string? : Json → Option String
  | .string s => some s
  | _ => none

def Json.bool? : Json → Option Bool
  | .bool b => some b
  | _ => none

/-- The value under a key; `none` in the first place if the key is repeated. -/
def Json.onlyMember? (key : String) (members : List (String × Json)) : Option (Option Json) :=
  match members.filter fun m => m.1 == key with
  | [] => some none
  | [(_, j)] => some (some j)
  | _ => none

namespace Upload

def fieldNames : List String := ["error", "tmp_path", "size", "declared_mime"]

def ofParts? (error path size : Json) (declared : Option Json) : Option Upload := do
  some ⟨← error.int64?, ← path.string?, ← size.uint64?,
    ← declared.elim (some "") Json.string?⟩

def ofJson? : Json → Option Upload
  | .object members => do
    let error ← Json.onlyMember? "error" members
    let path ← Json.onlyMember? "tmp_path" members
    let size ← Json.onlyMember? "size" members
    let declared ← Json.onlyMember? "declared_mime" members
    ofParts? (← error) (← path) (← size) declared
  | .array [error, path, size] => ofParts? error path size none
  | .array [error, path, size, declared] => ofParts? error path size (some declared)
  | _ => none

def toJson (u : Upload) : Json :=
  .object [("error", .number (.int u.error.toInt)), ("tmp_path", .string u.path),
    ("size", .number (.int u.size.toNat)), ("declared_mime", .string u.declaredType)]

def write (u : Upload) : String :=
  Json.braces [("error", toString u.error.toInt), ("tmp_path", Json.quote u.path),
    ("size", toString u.size.toNat), ("declared_mime", Json.quote u.declaredType)]

end Upload

namespace Value

def ofNumber : Json.Number → Value
  | .int n =>
    match Json.int64? (.number (.int n)) with
    | some i => int i
    | none => float (.ofInt n)
  | .float x => float x

mutual

def ofJson : Json → Except Mistake Value
  | .null => .ok null
  | .bool b => .ok (bool b)
  | .number n => .ok (ofNumber n)
  | .string s => .ok (text s)
  | .array items => (ofJsonItems items).map list
  | .object members =>
    match Upload.ofJson? (.object members) with
    | some u => .ok (upload u)
    | none => .error (.badJson .notUpload)

def ofJsonItems : List Json → Except Mistake (List Value)
  | [] => .ok []
  | j :: js => do return (← ofJson j) :: (← ofJsonItems js)

end

mutual

/-- The first kind of value that fits: null, boolean, integer, double, text, list, upload. -/
def decode? : Json → Option Value
  | .null => some null
  | .bool b => some (bool b)
  | .number n =>
    match Json.int64? (.number n), n with
    | some i, _ => some (int i)
    | none, .int n => some (float (.ofInt n))
    | none, .float x => some (float x)
  | .string s => some (text s)
  | .array items =>
    match decodeItems? items with
    | some vs => some (list vs)
    | none => (Upload.ofJson? (.array items)).map upload
  | .object members => (Upload.ofJson? (.object members)).map upload

def decodeItems? : List Json → Option (List Value)
  | [] => some []
  | j :: js => do return (← decode? j) :: (← decodeItems? js)

end

mutual

def toJson : Value → Json
  | null => .null
  | bool b => .bool b
  | int n => .number (.int n.toInt)
  | float x => if x.isFinite then .number (.float x) else .null
  | text s => .string s
  | list items => .array (toJsonItems items)
  | upload u => u.toJson

def toJsonItems : List Value → List Json
  | [] => []
  | v :: vs => v.toJson :: toJsonItems vs

end

mutual

def write : Value → String
  | null => "null"
  | bool b => if b then "true" else "false"
  | int n => toString n.toInt
  | float x => Json.numberLayout.write x
  | text s => Json.quote s
  | list items => Json.bracket "[" "]" (writeItems items)
  | upload u => u.write

def writeItems : List Value → List String
  | [] => []
  | v :: vs => v.write :: writeItems vs

end

end Value

end FormCheck
