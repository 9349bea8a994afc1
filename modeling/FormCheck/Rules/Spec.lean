import FormCheck.Error
import FormCheck.OrderedMap

/-!
The rules of a field: names with parameters, in order, each name once. As text they are segments
`name:arg,arg` with `|` between them; blanks around the parts do not count and empty segments are
passed over.
-/
namespace FormCheck

/-- Rule names with their parameters, in the order of their first mention. -/
structure RuleSpec where
  rules : OrderedMap (List String)
  deriving DecidableEq

namespace RuleSpec

def empty : RuleSpec := ⟨.empty⟩

instance : Inhabited RuleSpec := ⟨empty⟩

def insert (spec : RuleSpec) (name : String) (params : List String) : RuleSpec :=
  ⟨spec.rules.insert name params⟩

def ofList (rules : List (String × List String)) : RuleSpec := ⟨.ofList rules⟩

def toList (spec : RuleSpec) : List (String × List String) := spec.rules.entries

def get? (spec : RuleSpec) (name : String) : Option (List String) := spec.rules.get? name

def contains (spec : RuleSpec) (name : String) : Bool := spec.rules.contains name

def size (spec : RuleSpec) : Nat := spec.rules.size

def isEmpty (spec : RuleSpec) : Bool := spec.rules.isEmpty

def agrees (a b : RuleSpec) : Bool := a.rules.agrees b.rules

/-- Cuts the text behind the colon at its commas; blanks alone are no parameters. -/
def readParams (args : List Char) : List String :=
  let args := Text.strip Text.isBlank args
  if args.isEmpty then []
  else (Text.splitOn ',' args).map fun arg => String.ofList (Text.strip Text.isBlank arg)

/-- Reads `name:arg,arg`; only the first colon ends the name. -/
def readSegment? (segment : List Char) : Option (String × List String) :=
  let (name, params) := match Text.splitFirst? ':' segment with
    | some (name, args) => (name, readParams args)
    | none => (segment, [])
  let name := Text.strip Text.isBlank name
  if name.isEmpty then none else some (String.ofList name, params)

def isBlankSegment (segment : List Char) : Bool :=
  (Text.strip Text.isBlank segment).isEmpty

def readSegments (text : String) (spec : RuleSpec) :
    List (List Char) → Except Mistake RuleSpec
  | [] => .ok spec
  | segment :: segments =>
    if isBlankSegment segment then readSegments text spec segments
    else match readSegment? segment with
      | none => .error (.namelessSegment text (String.ofList segment))
      | some (name, params) => readSegments text (spec.insert name params) segments

def parse (text : String) : Except Mistake RuleSpec :=
  readSegments text empty (Text.splitOn '|' text.toList)

/-- Adds the rule of one segment, in which a `|` is a character like any other. -/
def push (spec : RuleSpec) (segment : String) : Except Mistake RuleSpec :=
  if isBlankSegment segment.toList then .error (.emptySegment segment)
  else match readSegment? segment.toList with
    | none => .error (.namelessSegment segment segment)
    | some (name, params) => .ok (spec.insert name params)

def renderRule (rule : String × List String) : List Char :=
  rule.1.toList ++
    if rule.2.isEmpty then [] else ':' :: Text.joinWith [','] (rule.2.map String.toList)

def render (spec : RuleSpec) : String :=
  String.ofList (Text.joinWith ['|'] (spec.toList.map renderRule))

end RuleSpec

/-- The rules of a field, as text that is read on every run or read beforehand. -/
inductive FieldRules where
  | text (s : String)
  | spec (spec : RuleSpec)

namespace FieldRules

def toSpec : FieldRules → Except Mistake RuleSpec
  | text s => RuleSpec.parse s
  | spec s => .ok s

end FieldRules

end FormCheck
