import FormCheck.Rules.Spec
import FormCheck.Value.Json

/-!
Records and rules given as JSON. The rules of a field may be a rule text, an array of segments, or
an object of parameters by rule name.
-/
namespace FormCheck

def dataMembers : List (String × Json) → Except Mistake (List (String × Value))
  | [] => .ok []
  | (field, j) :: members => do return (field, ← Value.ofJson j) :: (← dataMembers members)

def Data.ofJson : Json → Except Mistake Data
  | .object members => (dataMembers members).map OrderedMap.ofList
  | _ => .error (.badJson .dataNotObject)

namespace RuleSpec

def param (field rule : String) : Json → Except Mistake String
  | .string s => .ok s
  | .number n => .ok n.text
  | .bool b => .ok (if b then "true" else "false")
  | j => .error (.badJson (.parameterNotScalar field rule j))

/-- The parameters of a rule: none for null, one for a scalar, and those of an array. -/
def params (field rule : String) : Json → Except Mistake (List String)
  | .null => .ok []
  | .array items => items.mapM (param field rule)
  | j => (param field rule j).map ([·])

def pushAll (field : String) (spec : RuleSpec) : List Json → Except Mistake RuleSpec
  | [] => .ok spec
  | .string segment :: items => do pushAll field (← spec.push segment) items
  | j :: _ => .error (.badJson (.segmentNotString field j))

def insertMembers (field : String) (spec : RuleSpec) :
    List (String × Json) → Except Mistake RuleSpec
  | [] => .ok spec
  | (name, j) :: members => do
    insertMembers field (spec.insert name (← params field name j)) members

def strings? : List Json → Option (List String)
  | [] => some []
  | .string s :: js => (strings? js).map (s :: ·)
  | _ :: _ => none

def decodeMembers? : List (String × Json) → Option (List (String × List String))
  | [] => some []
  | (name, .array items) :: members => do
    return (name, ← strings? items) :: (← decodeMembers? members)
  | _ :: _ => none

def decode? : Json → Option RuleSpec
  | .object members => (decodeMembers? members).map ofList
  | _ => none

def toJson (spec : RuleSpec) : Json :=
  .object (spec.toList.map fun (name, params) => (name, .array (params.map .string)))

end RuleSpec

namespace FieldRules

def ofJson (field : String) : Json → Except Mistake FieldRules
  | .string s => .ok (text s)
  | .array items => (RuleSpec.pushAll field .empty items).map spec
  | .object members => (RuleSpec.insertMembers field .empty members).map spec
  | j => .error (.badJson (.rulesOfNoShape field j))

def decode? : Json → Option FieldRules
  | .string s => some (text s)
  | j => (RuleSpec.decode? j).map spec

def toJson : FieldRules → Json
  | text s => .string s
  | spec s => s.toJson

end FieldRules

def ruleMembers : List (String × Json) → Except Mistake (List (String × FieldRules))
  | [] => .ok []
  | (field, j) :: members => do return (field, ← FieldRules.ofJson field j) :: (← ruleMembers members)

def rulesOfJson : Json → Except Mistake (OrderedMap FieldRules)
  | .object members => (ruleMembers members).map OrderedMap.ofList
  | _ => .error (.badJson .rulesNotObject)

end FormCheck
