import FormCheck.OrderedMap

/-!
Message templates given by the caller. An entry is a template under `field.rule` or under a rule,
or a table of templates under a field; `resolve?` asks for them in that order of precedence, the
table before the rule.
-/
namespace FormCheck

inductive MessageEntry where
  | template (text : String)
  | byRule (templates : OrderedMap String)
  deriving DecidableEq

structure Overrides where
  entries : OrderedMap MessageEntry
  deriving DecidableEq

namespace Overrides

def empty : Overrides := ⟨.empty⟩

instance : Inhabited Overrides := ⟨empty⟩

def insert (o : Overrides) (key text : String) : Overrides :=
  ⟨o.entries.insert key (.template text)⟩

/-- The table under a field; a template in its place counts as an empty one. -/
def tableOf (o : Overrides) (field : String) : OrderedMap String :=
  match o.entries.get? field with
  | some (.byRule templates) => templates
  | _ => .empty

def insertNested (o : Overrides) (field rule text : String) : Overrides :=
  ⟨o.entries.insert field (.byRule ((o.tableOf field).insert rule text))⟩

def ofList (entries : List (String × String)) : Overrides :=
  entries.foldl (fun o e => o.insert e.1 e.2) empty

def size (o : Overrides) : Nat := o.entries.size

def isEmpty (o : Overrides) : Bool := o.entries.isEmpty

/-- The template under a key, unless a table stands there. -/
def flat? (o : Overrides) (key : String) : Option String :=
  match o.entries.get? key with
  | some (.template text) => some text
  | _ => none

def nested? (o : Overrides) (field rule : String) : Option String :=
  (o.tableOf field).get? rule

def resolve? (o : Overrides) (field rule : String) : Option String :=
  (o.flat? (field ++ "." ++ rule)).or <| (o.nested? field rule).or (o.flat? rule)

end Overrides

end FormCheck
